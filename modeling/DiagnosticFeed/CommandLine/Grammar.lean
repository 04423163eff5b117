import DiagnosticFeed.Text.Classes

/-!
# Option grammars

How the words of a command line are read. A word is an option or an operand; behind a word of two
hyphens all are operands. Long options may be cut short as long as only one fits, and take their
value behind an equals sign or from the next word. Short options may be written together, the last
one with its value. An option whose joined value is two hyphens is given without a value.

Operands are taken in one go, and options may stand before and behind them. What an option does
happens when it is come to, so of two that stop the reading the first one counts.
-/

namespace DiagnosticFeed.CommandLine

/-- Why the reading stops before there is anything to run. -/
inductive Stop where
  /-- The words make no sense. -/
  | misuse
  | help
  | version
  deriving DecidableEq

/-- What an option does to settings. -/
inductive Effect (σ : Type) where
  | set (f : σ → σ)
  /-- It takes a value, which may be refused; `none` is the value of one that is given without. -/
  | value (f : Option String → σ → Option σ)
  | stop (s : Stop)

/-- An option. -/
structure Rule (σ : Type) where
  names : List String
  effect : Effect σ

/-- How many operands there can be. -/
inductive Shape where
  | one
  | many
  /-- All words from the first operand on, options or not. -/
  | rest

/-- What words are read by. -/
structure Grammar (σ : Type) where
  rules : List (Rule σ)
  shape : Shape
  /-- Takes the operands in, and tells whether some of them were not understood. -/
  take : List String → σ → Except Stop (σ × Bool)

/-- What a word is taken for. -/
inductive Mark (σ : Type) where
  | operand
  /-- The first word of two hyphens. -/
  | divider
  /-- An option, if there is such a one, with the name that was meant and what is joined to it. -/
  | option (rule : Option (Rule σ)) (name : String) (joined : Option (List Char))

/-- A word of a command line. -/
structure Word (σ : Type) where
  text : String
  mark : Mark σ

/-- How far the reading is. -/
structure Progress (σ : Type) where
  settings : σ
  /-- Whether the operands have been taken. -/
  taken : Bool := false
  /-- Whether words were not understood. -/
  stray : Bool := false

/-- The word behind which all are operands. -/
def dividerText : String := "--"

section

variable {σ : Type}

def Word.isOption (w : Word σ) : Bool :=
  match w.mark with
  | .option .. => true
  | _ => false

def Word.isOperand (w : Word σ) : Bool :=
  match w.mark with
  | .operand => true
  | _ => false

def Word.isDivider (w : Word σ) : Bool :=
  match w.mark with
  | .divider => true
  | _ => false

/-! ## What words are taken for -/

/-- A text split at its first equals sign. -/
def splitEquals (cs : List Char) : List Char × Option (List Char) :=
  (cs.takeWhile (· != '='), (cs.dropWhile (· != '=')).tail?)

/-- Digits, as many as there are, and whether there are any. -/
def dropDigits (cs : List Char) : List Char × Bool :=
  let rest := cs.dropWhile fun c ↦ (Text.digitValue? c).isSome
  (rest, rest.length < cs.length)

/-- Whether a text is at its end, or before the one line end there. -/
def isLineEnd (cs : List Char) : Bool :=
  cs == [] || cs == ['\n']

/-- Whether a word is a negative number, which is an operand. A line end may follow it. -/
def isNegativeNumber : List Char → Bool
  | '-' :: cs =>
    match dropDigits cs with
    | ('.' :: more, _) => let (rest, some_) := dropDigits more; isLineEnd rest && some_
    | (rest, some_) => isLineEnd rest && some_
  | _ => false

namespace Grammar

variable (g : Grammar σ)

def names : List (String × Rule σ) :=
  g.rules.flatMap fun r ↦ r.names.map fun n ↦ (n, r)

def rule? (name : String) : Option (Rule σ) :=
  (g.names.find? fun e ↦ e.1 == name).map (·.2)

/-- The options whose names a word may be short for. -/
def meant (word : List Char) : List (Mark σ) :=
  match word with
  | '-' :: '-' :: _ =>
    let (start, joined) := splitEquals word
    (g.names.filter fun e ↦ start.isPrefixOf e.1.toList).map fun e ↦ .option (some e.2) e.1 joined
  | _ =>
    g.names.filterMap fun e ↦
      if e.1.toList == word.take 2 then some (.option (some e.2) e.1 (some (word.drop 2)))
      else if word.isPrefixOf e.1.toList then some (.option (some e.2) e.1 none)
      else none

/-- What a word that is no option's name is taken for. -/
def markOther (word : List Char) : Except Stop (Mark σ) :=
  let (start, joined) := splitEquals word
  let name := String.ofList start
  match joined, g.rule? name with
  | some value, some r => .ok (.option (some r) name (some value))
  | _, _ =>
    match g.meant word with
    | [] =>
      if isNegativeNumber word || word.contains ' ' then .ok .operand
      else .ok (.option none (String.ofList word) none)
    | [m] => .ok m
    | _ => .error .misuse

/-- What a word is taken for. -/
def mark (word : String) : Except Stop (Mark σ) :=
  match g.rule? word, word.toList with
  | some r, _ => .ok (.option (some r) word none)
  | none, '-' :: c :: cs => g.markOther ('-' :: c :: cs)
  | none, _ => .ok .operand

/-- What all words are taken for. -/
def words : List String → Except Stop (List (Word σ))
  | [] => .ok []
  | w :: ws => do
    if w == dividerText then
      return ⟨w, .divider⟩ :: ws.map fun w ↦ ⟨w, .operand⟩
    let m ← g.mark w
    let rest ← words ws
    return ⟨w, m⟩ :: rest

/-! ## Operands -/

end Grammar

/-- How many words at the front are operands of a shape; a divider before or behind them counts. -/
def Shape.extent (s : Shape) (ws : List (Word σ)) : Nat :=
  let lead := (ws.takeWhile (·.isDivider)).length
  match ws.drop lead with
  | [] => 0
  | w :: behind =>
    if !w.isOperand then 0
    else
      match s with
      | .one => lead + 1 + (behind.takeWhile (·.isDivider)).length
      | .many => lead + 1 + (behind.takeWhile fun w ↦ !w.isOption).length
      | .rest => ws.length

/-- The operands among the words taken for them. -/
def Shape.operands (s : Shape) (texts : List String) : List String :=
  match s with
  | .rest => texts
  | _ => texts.erase dividerText

namespace Grammar

variable (g : Grammar σ)

/-- Takes the operands at the front, if there are any and none were taken before. -/
def takeOperands (p : Progress σ) (ws : List (Word σ)) :
    Except Stop (Progress σ × List (Word σ)) :=
  let n := g.shape.extent ws
  if p.taken || n == 0 then .ok (p, ws)
  else do
    let (settings, stray) ← g.take (g.shape.operands ((ws.take n).map (·.text))) p.settings
    return (⟨settings, true, p.stray || stray⟩, ws.drop n)

/-! ## Options -/

/-- Whether an option takes a value. -/
def takesValue (r : Rule σ) : Bool :=
  match r.effect with
  | .value _ => true
  | _ => false

/-- The options that are written together in a word, and the last one with its value if that is
joined to it. -/
def together (r : Rule σ) (name : String) (text : List Char) :
    Except Stop (List (Rule σ) × Rule σ × Option String) :=
  if takesValue r then .ok ([], r, some (String.ofList text))
  else if name.startsWith dividerText then .error .misuse
  else
    match text with
    | [] => .error .misuse
    | c :: cs =>
      let next := String.ofList ['-', c]
      match g.rule? next with
      | none => .error .misuse
      | some r' =>
        if cs.isEmpty then .ok ([r], r', none)
        else (together r' next cs).map fun (before, last) ↦ (r :: before, last)

/-- What an option does, with its value if it takes one. -/
def apply (s : σ) (r : Rule σ) (value : Option String) : Except Stop σ :=
  match r.effect, value with
  | .set f, _ => .ok (f s)
  | .stop why, _ => .error why
  | .value f, some v =>
    match f (if v == dividerText then none else some v) s with
    | some s => .ok s
    | none => .error .misuse
  | .value _, none => .error .misuse

/-- The value of an option that is not joined to it: the next word, if that is an operand. -/
def nextValue (r : Rule σ) (ws : List (Word σ)) :
    Except Stop (Option String × List (Word σ)) :=
  if takesValue r then
    match ws with
    | w :: ws => if w.isOperand then .ok (some w.text, ws) else .error .misuse
    | [] => .error .misuse
  else .ok (none, ws)

/-- Takes an option, with its value from the words behind it if need be. -/
def takeOption (p : Progress σ) (r : Rule σ) (name : String) (joined : Option (List Char))
    (ws : List (Word σ)) : Except Stop (Progress σ × List (Word σ)) := do
  let (before, last, value) ← match joined with
    | none => .ok ([], r, none)
    | some text => g.together r name text
  let (value, ws) ← match value with
    | some v => .ok (some v, ws)
    | none => nextValue last ws
  let settings ← before.foldlM (fun s r ↦ apply s r none) p.settings
  return ({ p with settings := ← apply settings last value }, ws)

/-! ## Command lines -/

/-- Reads words from the front; each step takes one at least. -/
def walk : Nat → Progress σ → List (Word σ) → Except Stop (Progress σ)
  | 0, p, _ => .ok p
  | n + 1, p, ws => do
    if ws.any (·.isOption) then
      match ws with
      | [] => return p
      | w :: behind =>
        match w.mark with
        | .option none _ _ => walk n { p with stray := true } behind
        | .option (some r) name joined =>
          let (p, ws) ← g.takeOption p r name joined behind
          walk n p ws
        | _ =>
          let (p, left) ← g.takeOperands p ws
          if left.length < ws.length then walk n p left
          else walk n { p with stray := true } (ws.dropWhile fun w ↦ !w.isOption)
    else
      let (p, left) ← g.takeOperands p ws
      return { p with stray := p.stray || !left.isEmpty }

def read (texts : List String) (s : σ) : Except Stop (Progress σ) := do
  let ws ← g.words texts
  g.walk (ws.length + 1) ⟨s, false, false⟩ ws

end Grammar

end

end DiagnosticFeed.CommandLine
