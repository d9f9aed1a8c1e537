import CodeAtlas.Text.Digit
import CodeAtlas.Text.Pieces
/-!
  The arguments of a command.

  A switch has a long name and may have a short one; it may take a value.  The long name can be cut short
  as long as it stays the only one that fits, and its value may follow an equals sign.  Short switches can
  be joined: all but the last of them take no value.  What follows an equals sign behind a short name without
  a value is joined to it as well.  Everything else is a word, and so is all that comes after two dashes.

  Asking for help ends the reading at once, and so does a switch that is written wrongly.  A word or a switch
  that is not known only counts at the end.
-/
namespace CodeAtlas.Arguments

/-- Why arguments are not acted upon. -/
inductive Refusal where
  | help
  | wrong
deriving Repr, DecidableEq, Inhabited

/-- A switch. -/
structure Switch where
  /-- the short name first, if there is one -/
  names : List String
  takesValue : Bool
deriving Repr, DecidableEq, Inhabited

/-- The switch that asks for help. -/
def helpSwitch : Switch := ⟨["-h", "--help"], false⟩

/-- What one argument is. -/
inductive Token where
  | word (text : String)
  /-- two dashes -/
  | separator
  /-- a switch, by the name that was written or completed, with what follows the name in the same argument;
      an equals sign between them does not count -/
  | switch (s : Switch) (name : String) (attached : Option (List Char))
  | unknown
deriving Repr, DecidableEq, Inhabited

/-- The switch with a name. -/
def named? (switches : List Switch) (name : String) : Option Switch :=
  switches.find? fun s => s.names.contains name

/-- All names of some switches, each with its switch. -/
def allNames (switches : List Switch) : List (String × Switch) :=
  switches.flatMap fun s => s.names.map fun name => (name, s)

/-- The names that a written name can be completed to. -/
def completions (switches : List Switch) (written : String) : List (String × Switch) :=
  (allNames switches).filter fun e => Text.startsWith written e.1

/-- A name, and what follows its equals sign. -/
def cutName (arg : String) : String × Option (List Char) :=
  match Text.Chars.cutFirst? '=' arg.toList with
  | some (name, attached) => (String.ofList name, some attached)
  | none => (arg, none)

/-- Negative numbers are words, not switches; the digits may be of any script, and a line end may follow. -/
def isNegativeNumber (arg : String) : Bool :=
  match arg.toList with
  | '-' :: rest =>
    let number := if rest.getLast? = some '\n' then rest.dropLast else rest
    match number.dropWhile Text.isDecimalDigit with
    | [] => !number.isEmpty
    | '.' :: fraction => !fraction.isEmpty && fraction.all Text.isDecimalDigit
    | _ => false
  | _ => false

/-- What a text that starts with a dash is when no switch fits. -/
def unmatched (arg : String) : Token :=
  if isNegativeNumber arg || Text.hasChar ' ' arg then .word arg else .unknown

/-- The switches that an argument can stand for: a long name can be cut short, and a short name ends where the
    next character begins. -/
def candidates (switches : List Switch) (arg : String) : List (String × Switch × Option (List Char)) :=
  if Text.startsWith "--" arg then
    let (name, attached) := cutName arg
    (completions switches name).map fun (name, s) => (name, s, attached)
  else
    let short := String.ofList (arg.toList.take 2)
    (named? switches short).toList.map fun s => (short, s, some (arg.toList.drop 2))

/-- What an argument is; it must not fit several switches. -/
def classify (switches : List Switch) (arg : String) : Except Refusal Token :=
  if arg = "--" then .ok .separator
  else if !Text.startsWith "-" arg || arg = "-" then .ok (.word arg)
  else
    let (name, attached) := cutName arg
    match named? switches name with
    | some s => .ok (.switch s name attached)
    | none =>
      match candidates switches arg with
      | [] => .ok (unmatched arg)
      | [(name, s, attached)] => .ok (.switch s name attached)
      | _ => .error .wrong

/-- The tokens of arguments; after the separator there are only words. -/
def tokens (switches : List Switch) : List String → Except Refusal (List Token)
  | [] => .ok []
  | arg :: rest => do
    match ← classify switches arg with
    | .separator => return .separator :: rest.map .word
    | t => return t :: (← tokens switches rest)

/-- The switches that one argument stands for. -/
structure Group where
  switches : List Switch
  /-- the value of the last switch, if it is in the same argument -/
  value : Option String
deriving Repr, DecidableEq, Inhabited

/-- Whether the value of a group is still to come. -/
def Group.awaitsValue (g : Group) : Bool :=
  g.value.isNone && (g.switches.getLast?.map Switch.takesValue).getD false

/-- The group that starts with a short switch, from what is joined to it: a value, or more short switches. -/
def shortGroup (switches : List Switch) (s : Switch) : List Char → Except Refusal Group
  | [] => .ok ⟨[s], none⟩
  | c :: rest =>
    if s.takesValue then .ok ⟨[s], some (String.ofList (c :: rest))⟩
    else
      match named? switches (String.ofList ['-', c]) with
      | none => .error .wrong
      | some next => (shortGroup switches next rest).map fun g => { g with switches := s :: g.switches }

/-- The group that starts with a switch of a given name, from what is attached to it. -/
def groupOf (switches : List Switch) (s : Switch) (name : String) (attached : Option (List Char)) :
    Except Refusal Group :=
  match attached with
  | none => .ok ⟨[s], none⟩
  | some cs =>
    if s.takesValue then .ok ⟨[s], some (String.ofList cs)⟩
    else if cs.isEmpty || Text.startsWith "--" name then .error .wrong
    else shortGroup switches s cs

/-- What arguments say. -/
structure Reading where
  /-- the switches with their values; a switch without a value has an empty one -/
  given : List (Switch × String)
  word : Option String
  /-- whether there was anything that is not known -/
  leftover : Bool
deriving Repr, DecidableEq, Inhabited

namespace Reading

/-- Nothing. -/
def empty : Reading := { given := [], word := none, leftover := false }

/-- Whether a switch is given. -/
def has (r : Reading) (s : Switch) : Bool := r.given.any fun g => g.1 = s

/-- The value of a switch; the last one counts.  Two dashes are no value. -/
def value? (r : Reading) (s : Switch) : Option String :=
  ((r.given.reverse.find? fun g => g.1 = s).map (·.2)).filter (· ≠ "--")

/-- The reading with one more switch. -/
def give (r : Reading) (s : Switch) (value : String) : Except Refusal Reading :=
  if s = helpSwitch then .error .help else .ok { r with given := r.given ++ [(s, value)] }

/-- The reading with one more word; only one is expected. -/
def addWord (r : Reading) (text : String) : Reading :=
  match r.word with
  | none => { r with word := some text }
  | some _ => { r with leftover := true }

/-- The reading with switches of which only the last one has a value. -/
def giveSwitches (r : Reading) (value : String) : List Switch → Except Refusal Reading
  | [] => .ok r
  | [s] => r.give s value
  | s :: rest => do giveSwitches (← r.give s "") value rest

/-- The reading with a group of switches. -/
def giveGroup (r : Reading) (g : Group) (value : String) : Except Refusal Reading :=
  giveSwitches r value g.switches

end Reading

/-- Reads tokens; `afterWord` says that the token before was the expected word. -/
def read (switches : List Switch) (r : Reading) (afterWord : Bool) : List Token → Except Refusal Reading
  | [] => .ok r
  | .word text :: rest => read switches (r.addWord text) r.word.isNone rest
  | .unknown :: rest => read switches { r with leftover := true } false rest
  | .separator :: rest =>
    -- two dashes belong to the word beside them
    let next := r.word.isNone && !rest.isEmpty
    read switches { r with leftover := r.leftover || !(next || afterWord) } false rest
  | .switch s name attached :: rest => do
    let g ← groupOf switches s name attached
    if g.awaitsValue then
      match rest with
      | .word text :: rest => read switches (← r.giveGroup g text) false rest
      | _ => throw .wrong
    else read switches (← r.giveGroup g (g.value.getD "")) false rest

/-- What the arguments of a command say. -/
def readAll (switches : List Switch) (args : List String) : Except Refusal Reading := do
  read switches .empty false (← tokens switches args)

/-- What stands before the first word, the word, and the arguments after it.  No switch there takes a value. -/
def readToWord (switches : List Switch) (r : Reading) : List String → Except Refusal (Reading × String × List String)
  | [] => .error .wrong
  | arg :: rest => do
    match ← classify switches arg with
    | .word text => return (r, text, rest)
    | .separator => throw .wrong
    | .unknown => readToWord switches { r with leftover := true } rest
    | .switch s name attached =>
      let g ← groupOf switches s name attached
      readToWord switches (← r.giveGroup g "") rest

example : isNegativeNumber "-.5" = true ∧ isNegativeNumber "-5." = false := by decide +kernel

end CodeAtlas.Arguments
