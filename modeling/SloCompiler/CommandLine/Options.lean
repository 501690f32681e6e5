import SloCompiler.CommandLine.Word

namespace SloCompiler.CommandLine

abbrev Operand := Option String

structure Options where
  mixin : Operand
  inputFolder : Operand
  outputFolder : Operand
  rules : Bool
  dashboards : Bool
  level : Option LogLevel
  deriving DecidableEq, Repr

inductive Stop where
  | help
  | misuse (cause : Misuse)
  deriving DecidableEq, Repr

-- What words have set so far, and the words that set nothing. The next word may have to be the
-- value of a setting; settings that share its dash take effect with it.
structure Draft where
  mixin : Option Operand := none
  inputFolder : Operand := some "monitoring-config"
  outputFolder : Operand := none
  rules : Bool := false
  dashboards : Bool := false
  level : Option LogLevel := some .info
  unclaimed : List String := []
  waiting : Option (List Setting × Setting) := none

namespace Draft

def turnOn (d : Draft) : Setting → Except Stop Draft
  | .help => .error .help
  | .rules => .ok { d with rules := true }
  | .dashboards => .ok { d with dashboards := true }
  | _ => .ok d

def assign (d : Draft) (s : Setting) (value : Operand) : Except Stop Draft :=
  match s with
  | .mixin => .ok { d with mixin := some value }
  | .inputFolder => .ok { d with inputFolder := value }
  | .outputFolder => .ok { d with outputFolder := value }
  | .logLevel =>
    match value with
    | none => .ok { d with level := none }
    | some text =>
      match LogLevel.ofText? text with
      | some level => .ok { d with level := some level }
      | none => .error (.misuse (.noChoice s text (LogLevel.all.map LogLevel.text)))
  | _ => .ok d

def leave (d : Draft) (text : String) : Draft := { d with unclaimed := d.unclaimed ++ [text] }

-- Settings without a value can share one dash; the last of them may go on with a value.
def unpack (s : Setting) (isShort : Bool) : List Char →
    Except Misuse (List Setting × Setting × Option String)
  | [] => if s.takesValue then .ok ([], s, some "") else .error (.needlessValue s "")
  | c :: rest =>
    if s.takesValue then .ok ([], s, some (String.ofList (c :: rest)))
    else
      match (if isShort then Setting.ofShort? c else none) with
      | none => .error (.needlessValue s (String.ofList (c :: rest)))
      | some next =>
        if rest.isEmpty then .ok ([s], next, none)
        else (unpack next true rest).map fun (flags, last, value) => (s :: flags, last, value)

def operand (attached : String) : Operand := if attached == "--" then none else some attached

def start (d : Draft) (flags : List Setting) (s : Setting) : Except Stop Draft :=
  if s.takesValue then .ok { d with waiting := some (flags, s) }
  else (flags ++ [s]).foldlM turnOn d

def give (d : Draft) (flags : List Setting) (s : Setting) (value : Operand) :
    Except Stop Draft := do
  (← flags.foldlM turnOn { d with waiting := none }).assign s value

def read (d : Draft) (word : Word) : Except Stop Draft :=
  match d.waiting, word with
  | some (flags, s), .argument text => d.give flags s (some text)
  | some (_, s), _ => .error (.misuse (.noValue s))
  | none, .separator => .ok (d.leave "--")
  | none, .argument text | none, .unknown text => .ok (d.leave text)
  | none, .setting s _ none => d.start [] s
  | none, .setting s isShort (some text) => do
    let (flags, last, value) ← (unpack s isShort text.toList).mapError .misuse
    match value with
    | some text => d.give flags last (operand text)
    | none => d.start flags last

def finish (d : Draft) : Except Stop Options :=
  match d.waiting, d.mixin with
  | some (_, s), _ => .error (.misuse (.noValue s))
  | none, none => .error (.misuse (.missing .mixin))
  | none, some mixin =>
    if d.unclaimed.isEmpty then
      .ok ⟨mixin, d.inputFolder, d.outputFolder, d.rules, d.dashboards, d.level⟩
    else .error (.misuse (.unrecognized d.unclaimed))

end Draft

def Options.ofTexts (texts : List String) : Except Stop Options := do
  let words ← (Word.ofTexts texts).mapError .misuse
  (← words.foldlM Draft.read {}).finish

end SloCompiler.CommandLine
