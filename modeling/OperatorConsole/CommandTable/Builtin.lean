import OperatorConsole.CommandTable

/-!
# The built-in command table

The verbs and help topics that the console has when no table file is given.
-/

namespace OperatorConsole.CommandTable

def summaryLines : List String := [
  "set key \"value\" [on server] [level level] - Sets the value to the storage.",
  "uset, rset, ruset - Unique, read-only and read-only unique set.",
  "get key [server] - Gets the value from the storage.",
  "del key [server] - Deletes the key.",
  "",
  "new object name [server] [s|r] - Creates an object.",
  "seto object key \"value\" [on server] - Sets a key inside an object.",
  "geto object [key] - Shows an object or gets one of its keys.",
  "delo object key - Deletes a key from an object.",
  "marshalo object [server] - Shows an object as JSON.",
  "attach dst src - Attaches object src to object dst.",
  "delete object name server - Deletes an object.",
  "",
  "new user name password [s|r] - Creates a user.",
  "delete user name - Deletes a user.",
  "change user.level user level - Changes the level of a user.",
  "change user.password user password - Changes the password of a user.",
  "add server address - Adds a storage server.",
  "",
  "history - history of user actions",
  "servers - list of active servers with stats",
  "doc - documentation",
  "exit - end the session",
  "help command [object|user] - details about a command"]

def localizedLines : List String := [
  "set key \"value\" - Сохраняет значение в хранилище.",
  "get key [server] - Получает значение из хранилища.",
  "del key - Удаляет ключ.",
  "new object name - Создаёт объект.",
  "seto object key \"value\" - Сохраняет ключ в объекте.",
  "geto object [key] - Показывает объект или его ключ.",
  "",
  "history - история действий пользователя",
  "servers - список активных серверов",
  "doc - документация",
  "exit - завершить сессию"]

def getHelp : List String := [
  "get key [server] - Gets the value from the storage.",
  "server > 0 - Search on a specific server. (speed: fast)",
  "server = 0 - DB search. (speed: medium)",
  "server = -1 (default) - Deep search. (speed: slow)"]

def delHelp : List String := [
  "del key [server] - Deletes the key.",
  "Without a server number the key is deleted wherever it is found."]

def getoHelp : List String := [
  "geto object - Shows every key of the object.",
  "geto object key - Gets a single key from the object."]

def levelHelp : List String := [
  "Levels:",
  "s - secret, readable by users with the secret level.",
  "r - restricted, readable by users with the restricted level or above."]

/-- Lines of markup, one under the other. -/
def stacked (lines : List String) : String :=
  String.intercalate "<br>" lines

def documentation (page : String) : HelpEntry :=
  .navigate ("/doc/" ++ page)

def builtinVerbs : List Verb := [
  ⟨"help", .help⟩,
  ⟨"помощь", .localizedHelp⟩,
  ⟨"history", .remote .history⟩,
  ⟨"servers", .remote .servers⟩,
  ⟨"exit", .clearSession "/exit"⟩,
  ⟨"doc", .navigate "/doc/"⟩]

def builtinTopics : List HelpTopic := [
  ⟨"set", none, documentation "commands.html#set"⟩,
  ⟨"uset", none, documentation "commands.html#set"⟩,
  ⟨"rset", none, documentation "commands.html#set"⟩,
  ⟨"ruset", none, documentation "commands.html#set"⟩,
  ⟨"get", none, .text (stacked getHelp)⟩,
  ⟨"del", none, .text (stacked delHelp)⟩,
  ⟨"new", some "object", documentation "objects.html#new-object"⟩,
  ⟨"new", some "user", documentation "acl.html#new-user"⟩,
  ⟨"seto", none, documentation "objects.html#seto"⟩,
  ⟨"geto", none, .text (stacked getoHelp)⟩,
  ⟨"delo", none,
    .text "delo object key - Deletes a key from an object."⟩,
  ⟨"marshalo", none, documentation "objects.html#marshalo"⟩,
  ⟨"attach", none, documentation "objects.html#attach"⟩,
  ⟨"delete", some "object", documentation "objects.html#delete-object"⟩,
  ⟨"delete", some "user", documentation "acl.html#delete-user"⟩,
  ⟨"change", none, documentation "acl.html#change"⟩,
  ⟨"level", none, .text (stacked levelHelp)⟩,
  ⟨"add", some "server",
    .text "add server address - Registers a storage server with the balancer."⟩,
  ⟨"history", none,
    .text "history - Shows your previous commands, newest first."⟩,
  ⟨"servers", none,
    .text "servers - Lists active servers with RAM usage and object counts."⟩]

def builtin : CommandTable where
  version := supportedVersion
  summary := stacked summaryLines
  localized := stacked localizedLines
  verbs := OrderedBy.empty.putAll builtinVerbs
  topics := builtinTopics

end OperatorConsole.CommandTable
