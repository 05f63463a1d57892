/-!
# Commands

The commands of the language and what a scene may say with each: how the words after the name are
read, and what the lines indented under the command are.
-/

namespace Gamebook

/-- How far a variable reaches: through the whole game or through one scene. -/
inductive Scope where
  | game
  | scene
deriving DecidableEq, Repr

/-- How the words after a command name are read. -/
inductive Arguments where
  /-- The words name nothing. -/
  | plain
  | declaration (scope : Scope)
  | parameters
  | assignment
  | expression
  /-- A label of this scene and values handed over. -/
  | jump
  /-- A scene, perhaps a label of it, and values handed over. -/
  | sceneJump
  | label
  | achievement
  | award
  | prose
deriving DecidableEq, Repr

/-- The place of a command in a chain of conditions. -/
inductive BranchPlace where
  | opening
  | middle
  | closing
deriving DecidableEq, Repr

/-- What the lines indented under a command are. -/
inductive Body where
  | none
  | nested
  /-- The options of a choice; after a fake choice the story goes on below it. -/
  | options (fake : Bool)
  | branch (place : BranchPlace)
  /-- One scene name a row; `listed` rows make up the scene list of the game. -/
  | scenes (listed : Bool)
  /-- Rows of a chart of statistics. -/
  | chart
  /-- Lines that are never read. -/
  | remark
deriving DecidableEq, Repr

/-- A command of the language. -/
structure Command where
  name : String
  arguments : Arguments := .plain
  body : Body := .none
  /-- Whether the story never continues on the next line. -/
  terminal : Bool := false
  needsArgument : Bool := false
  description : String
deriving DecidableEq, Repr

namespace Command

def table : List Command :=
  [ { name := "abort", terminal := true, description := "Stop the current scene immediately." },
    { name := "achieve", arguments := .award, needsArgument := true,
      description := "Award an achievement." },
    { name := "achievement", arguments := .achievement, body := .nested, needsArgument := true,
      description := "Declare an achievement (startup only)." },
    { name := "allow_reuse", description := "Allow an option to be chosen again." },
    { name := "author", needsArgument := true, description := "Set the game's author." },
    { name := "bug", terminal := true, description := "Report a bug and stop the game." },
    { name := "check_achievements", description := "Refresh achievement variables." },
    { name := "check_purchase", needsArgument := true,
      description := "Check whether a product was purchased." },
    { name := "check_registration", description := "Check whether the player is registered." },
    { name := "choice", body := .options false,
      description := "Present a set of options to the player." },
    { name := "comment", body := .remark,
      description := "A comment that is not shown to the player." },
    { name := "create", arguments := .declaration .game, needsArgument := true,
      description := "Declare a global variable (startup only)." },
    { name := "delay_break", arguments := .expression, needsArgument := true,
      description := "Pause the game for a number of seconds." },
    { name := "delay_ending", needsArgument := true, description := "End the game after a delay." },
    { name := "delete", arguments := .assignment, needsArgument := true,
      description := "Delete a temporary variable." },
    { name := "disable_reuse", description := "Prevent options from being chosen again." },
    { name := "else", body := .branch .closing,
      description := "Run the body when no preceding condition held." },
    { name := "elseif", arguments := .expression, body := .branch .middle, needsArgument := true,
      description := "Run the body when this condition holds." },
    { name := "elsif", arguments := .expression, body := .branch .middle, needsArgument := true,
      description := "Alias of *elseif." },
    { name := "end_trial", terminal := true, description := "End the trial version of the game." },
    { name := "ending", terminal := true, description := "End the game." },
    { name := "fake_choice", body := .options true,
      description := "A choice whose options all fall through." },
    { name := "finish", terminal := true,
      description := "Continue to the next scene in the scene list." },
    { name := "gosub", arguments := .jump, needsArgument := true,
      description := "Jump to a label and return afterwards." },
    { name := "gosub_scene", arguments := .sceneJump, needsArgument := true,
      description := "Jump to another scene and return afterwards." },
    { name := "goto", arguments := .jump, terminal := true, needsArgument := true,
      description := "Jump to a label in this scene." },
    { name := "goto_random_scene", body := .scenes false, terminal := true,
      description := "Jump to a random scene from the list." },
    { name := "goto_scene", arguments := .sceneJump, terminal := true, needsArgument := true,
      description := "Jump to another scene." },
    { name := "gotoref", arguments := .expression, terminal := true, needsArgument := true,
      description := "Jump to a label named by a variable." },
    { name := "hide_reuse", description := "Hide options once they have been chosen." },
    { name := "if", arguments := .expression, body := .branch .opening, needsArgument := true,
      description := "Run the body when the condition holds." },
    { name := "image", needsArgument := true, description := "Show an image." },
    { name := "input_number", arguments := .assignment, needsArgument := true,
      description := "Ask the player for a number." },
    { name := "input_text", arguments := .assignment, needsArgument := true,
      description := "Ask the player for some text." },
    { name := "label", arguments := .label, needsArgument := true,
      description := "Mark a place in the scene to jump to." },
    { name := "line_break", description := "Insert a line break." },
    { name := "link", needsArgument := true, description := "Show a hyperlink." },
    { name := "looplimit", arguments := .expression, needsArgument := true,
      description := "Set the loop limit." },
    { name := "more_games", description := "Show a link to more games." },
    { name := "page_break", arguments := .prose,
      description := "Show a button that continues on a new page." },
    { name := "params", arguments := .parameters,
      description := "Receive the arguments of a *gosub." },
    { name := "print", arguments := .expression, needsArgument := true,
      description := "Print the value of an expression." },
    { name := "product", needsArgument := true, description := "Declare an in-app product." },
    { name := "purchase", needsArgument := true, description := "Offer a product for purchase." },
    { name := "rand", arguments := .assignment, needsArgument := true,
      description := "Set a variable to a random number." },
    { name := "redirect_scene", arguments := .sceneJump, terminal := true, needsArgument := true,
      description := "Restart the game from another scene." },
    { name := "reset", description := "Reset all variables." },
    { name := "restart", terminal := true, description := "Restart the game from the beginning." },
    { name := "restore_checkpoint", description := "Restore a saved checkpoint." },
    { name := "restore_game", description := "Let the player restore a saved game." },
    { name := "return", terminal := true, description := "Return from a *gosub." },
    { name := "save_checkpoint", description := "Save a checkpoint." },
    { name := "save_game", description := "Let the player save the game." },
    { name := "scene_list", body := .scenes true,
      description := "List the scenes of the game (startup only)." },
    { name := "script", needsArgument := true, description := "Run raw JavaScript." },
    { name := "selectable_if", arguments := .expression, needsArgument := true,
      description := "Show an option that is only selectable when the condition holds." },
    { name := "set", arguments := .assignment, needsArgument := true,
      description := "Change the value of a variable." },
    { name := "setref", arguments := .expression, needsArgument := true,
      description := "Set a variable named by another variable." },
    { name := "share_this_game", description := "Show sharing links." },
    { name := "show_password", description := "Show a password for the current state." },
    { name := "snoop", description := "Print all variables (debugging)." },
    { name := "sound", needsArgument := true, description := "Play a sound." },
    { name := "stat_chart", body := .chart, description := "Show a chart of statistics." },
    { name := "subscribe", description := "Ask the player to subscribe." },
    { name := "temp", arguments := .declaration .scene, needsArgument := true,
      description := "Declare a temporary variable for this scene." },
    { name := "text_image", needsArgument := true, description := "Show text as an image." },
    { name := "title", needsArgument := true, description := "Set the game's title." } ]

/-- The command of a name, in whatever case it is written. -/
def find? (name : String) : Option Command :=
  table.find? (·.name == name.toLower)

/-- Whether lines may be indented under the command. -/
def isBlock (command : Command) : Bool :=
  command.body != .none

def isBranch (command : Command) : Bool :=
  match command.body with
  | .branch _ => true
  | _ => false

/-- Whether the command must follow another branch of its chain. -/
def continuesChain (command : Command) : Bool :=
  match command.body with
  | .branch place => place != .opening
  | _ => false

/-- Whether another branch may follow the command. -/
def admitsBranch (command : Command) : Bool :=
  match command.body with
  | .branch place => place != .closing
  | _ => false

def isRemark (command : Command) : Bool :=
  command.body == .remark

def isLabel (command : Command) : Bool :=
  command.arguments == .label

/-- The names of the commands that belong into the startup scene. -/
def startupOnly : List String :=
  ["achievement", "create", "scene_list", "title", "author"]

end Command

/-- Words that turn an option line into a conditional or reusable one. -/
inductive Modifier where
  | showIf
  | selectableIf
  | disableReuse
  | hideReuse
  | allowReuse
deriving DecidableEq, Repr

namespace Modifier

def all : List Modifier :=
  [showIf, selectableIf, disableReuse, hideReuse, allowReuse]

def name : Modifier → String
  | showIf => "if"
  | selectableIf => "selectable_if"
  | disableReuse => "disable_reuse"
  | hideReuse => "hide_reuse"
  | allowReuse => "allow_reuse"

def find? (name : String) : Option Modifier :=
  all.find? (·.name == name.toLower)

/-- Whether a condition stands between the modifier and the option. -/
def takesCondition : Modifier → Bool
  | showIf | selectableIf => true
  | disableReuse | hideReuse | allowReuse => false

end Modifier

end Gamebook
