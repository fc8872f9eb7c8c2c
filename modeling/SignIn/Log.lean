import SignIn.Text.Quoted

/-! Lines of the log. -/

namespace SignIn

inductive Level where
  | error | warn | info | debug | trace
  deriving DecidableEq

def Level.name : Level → String
  | .error => "ERROR"
  | .warn => "WARN"
  | .info => "INFO"
  | .debug => "DEBUG"
  | .trace => "TRACE"

structure LogLine where
  level : Level
  text : String
  fields : List (String × String) := []
  deriving DecidableEq

def LogLine.render (l : LogLine) : String :=
  l.fields.foldl (fun s f => s ++ s!" {f.1}={f.2}") s!"{l.level.name} {l.text}"

end SignIn
