import TagOrder.Console.Layout
import TagOrder.Console.Markup
import TagOrder.Notice

/-!
# The console

What notices look like on the console. A notice is markup: its head, which the banner may colour,
and its message, whose tags stand for themselves. A line of the console is a great many cells wide.
-/

namespace TagOrder

namespace Console

/-- How many cells a line of the console takes. -/
def width : Nat := 4000

/-- A message as it is echoed. -/
def echo (message : Text) : Text := Markup.shown (Markup.escape message)

/-- Lines as they are written, each ended. -/
def ended (lines : List Text) : String :=
  String.ofList (lines.flatMap fun line => line ++ ['\n'])

/-- A text on the console. -/
def print (text : Text) : String := ended (Layout.lines .none .fold width text)

end Console

/-- How the tool introduces itself, and the colour in which it does. -/
structure Banner where
  project : String := "ATTRS-ORDER"
  colour : String := "cyan"
  welcome : String := "Attribute order check online"
  deriving DecidableEq, Repr

namespace Banner

/-- The name under which the notices of a project are logged. -/
def logName (banner : Banner) : String :=
  String.ofList ((lowerText banner.project).toList.map fun c => if c = ' ' then '_' else c)

/-- The markup of the introduction: the project in brackets, and the welcome. -/
def introduction (banner : Banner) : Text :=
  ("[bold " ++ banner.colour ++ "][" ++ banner.project ++ "][/] " ++ banner.welcome).toList

/-- The markup of what a notice puts on the console, if it puts anything there. -/
def markup? (banner : Banner) (notice : Notice) : Option Text :=
  let headed (head : String) : Text := head.toList ++ Markup.escape notice.message.toList
  match notice.kind with
  | .welcome => some banner.introduction
  | .step => some (headed ("[" ++ banner.colour ++ "]>[/] "))
  | .warning => some (headed "[bold yellow]warning:[/] ")
  | .error => some (headed "[bold red]error:[/] ")
  | .debug | .trouble | .remark => none

/-- What is wrong with the markup of a notice, which only the banner can be to blame for. -/
def fault? (banner : Banner) (notice : Notice) : Option MarkupFault :=
  (banner.markup? notice).bind fun markup =>
    match Markup.check markup with
    | .ok () => none
    | .error fault => some fault

/-- What a notice puts on the console, if nothing is wrong with its markup. -/
def shown (banner : Banner) (notice : Notice) : String :=
  match banner.markup? notice with
  | some markup => Console.print (Markup.shown markup)
  | none => ""

end Banner

end TagOrder
