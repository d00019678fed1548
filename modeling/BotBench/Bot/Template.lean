import BotBench.Bot.Language
import BotBench.Text.Casing

/-! # Starter sources

A new bot can start from a template in its language, and its source is offered under a file name
made from the bot's name: lower-case ASCII letters and digits stay, everything else becomes an
underscore. -/

namespace BotBench

open Text

/-- The starter source in the indentation language. -/
def pythonTemplate : String :=
  "import os\n" ++
  "from telegram import Update, ReplyKeyboardMarkup, KeyboardButton\n" ++
  "from telegram.ext import Updater, CommandHandler, CallbackContext\n" ++
  "\n" ++
  "def start(update: Update, context: CallbackContext) -> None:\n" ++
  "    \"\"\"Sends a message with a reply keyboard attached.\"\"\"\n" ++
  "    keyboard = [\n" ++
  "        [KeyboardButton(\"Option 1\"), KeyboardButton(\"Option 2\")],\n" ++
  "        [KeyboardButton(\"Help\")],\n" ++
  "    ]\n" ++
  "    reply_markup = ReplyKeyboardMarkup(keyboard, resize_keyboard=True)\n" ++
  "    update.message.reply_text('Hello! I am your new bot. Choose an option:', " ++
  "reply_markup=reply_markup)\n" ++
  "\n" ++
  "def main() -> None:\n" ++
  "    # IMPORTANT: The bot token is read from an environment variable.\n" ++
  "    updater = Updater(token=os.environ.get(\"TELEGRAM_TOKEN\"))\n" ++
  "    dispatcher = updater.dispatcher\n" ++
  "    dispatcher.add_handler(CommandHandler(\"start\", start))\n" ++
  "    updater.start_polling()\n" ++
  "    updater.idle()\n" ++
  "\n" ++
  "if __name__ == '__main__':\n" ++
  "    main()\n"

/-- The starter source in the script language. -/
def javascriptTemplate : String :=
  "const \x7b Telegraf, Markup \x7d = require('telegraf');\n" ++
  "\n" ++
  "// IMPORTANT: The bot token is read from an environment variable.\n" ++
  "const bot = new Telegraf(process.env.TELEGRAM_TOKEN);\n" ++
  "\n" ++
  "bot.start((ctx) => \x7b\n" ++
  "  return ctx.reply(\n" ++
  "    'Welcome! I am your new bot. Choose an option:',\n" ++
  "    Markup.inlineKeyboard([\n" ++
  "      Markup.button.callback('Option 1', 'option_1'),\n" ++
  "      Markup.button.callback('Option 2', 'option_2'),\n" ++
  "    ])\n" ++
  "  );\n" ++
  "\x7d);\n" ++
  "\n" ++
  "bot.command('help', (ctx) => ctx.reply('This is a help message.'));\n" ++
  "\n" ++
  "bot.launch();\n" ++
  "\n" ++
  "// Enable graceful stop\n" ++
  "process.once('SIGINT', () => bot.stop('SIGINT'));\n" ++
  "process.once('SIGTERM', () => bot.stop('SIGTERM'));\n"

/-- The starter source of a language. -/
def templateFor : Language → String
  | .python => pythonTemplate
  | .javascript => javascriptTemplate

/-- The ending of a source's file name. -/
def Language.extension : Language → String
  | .python => "py"
  | .javascript => "js"

/-- Whether a character stays in a file name. -/
def isStemChar (c : Char) : Bool := ('a' ≤ c && c ≤ 'z') || ('0' ≤ c && c ≤ '9')

/-- The file name under which a source is offered. A bot without a name is a new bot. -/
def downloadFilename (name : Option String) (language : Language) : String :=
  let stem :=
    match name with
    | none | some "" => "new_bot"
    | some name =>
        String.ofList ((name.toList.flatMap lowerCase).map fun c => if isStemChar c then c else '_')
  stem ++ "." ++ language.extension

end BotBench
