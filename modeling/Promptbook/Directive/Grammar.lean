import Promptbook.Data.Whole
import Promptbook.Decimal.Reader
import Promptbook.Directive.Argument
import Promptbook.Text.Letter
import Promptbook.Text.Space

/-!
# Grammar of Directives

A directive is written between braces with percent signs, as a name with arguments behind it:

```text
arguments := item ((',' | blank) item)* ','?
item      := key (('=' | ':') value)?
value     := quoted | number | path | true | false | nil | null
path      := key ('.' (key | digits) | '[' (digits | quoted) ']')*
```

A quoted text extends to the next quote of the same kind; it has no escapes. Every reader returns
what it has read and the rest of the text; the rest is shorter, so that repetitions end.
-/

namespace Promptbook.Grammar

/-- A letter or an underscore starts a key. -/
def startsKey (c : Char) : Bool :=
  Text.isAlphabetic c || c == '_'

/-- Letters, digits, underscores and hyphens continue a key. -/
def continuesKey (c : Char) : Bool :=
  Text.isAlphanumeric c || c == '_' || c == '-'

/-- Read a key. -/
def key? : List Char → Option (List Char × List Char)
  | [] => none
  | c :: s =>
    if startsKey c then some (c :: s.takeWhile continuesKey, s.dropWhile continuesKey) else none

/-- Read a text in quotes. -/
def quoted? : List Char → Option (List Char × List Char)
  | [] => none
  | quote :: s =>
    if quote == '"' || quote == '\'' then
      match s.dropWhile (· != quote) with
      | [] => none
      | _ :: rest => some (s.takeWhile (· != quote), rest)
    else none

/-- Read digits, at least one. -/
def digits? (s : List Char) : Option (List Char × List Char) :=
  if (s.takeWhile Char.isDigit).isEmpty then none
  else some (s.takeWhile Char.isDigit, s.dropWhile Char.isDigit)

/-- Read a point and the digits behind it, if they are there. -/
def fraction (s : List Char) : Option (List Char) × List Char :=
  match s with
  | '.' :: rest =>
    match digits? rest with
    | some (digits, rest) => (some digits, rest)
    | none => (none, s)
  | _ => (none, s)

/-- The value of a number: an integer if it has no `fraction` and fits sixty-four bits with a sign,
and otherwise the nearest double, unless that is infinite. -/
def numberValue? (negative : Bool) (whole : List Char) (fraction : Option (List Char)) :
    Option Value :=
  let n : Int := Decimal.digitsValue whole
  let signed := if negative then -n else n
  if fraction.isNone && Whole.fits signed then some (.int signed)
  else
    let x := Decimal.Numeral.toFloat ⟨whole, fraction, none⟩ negative
    if x.isFinite then some (.double x) else none

/-- Read a number. No character of a key may follow it. -/
def number? (s : List Char) : Option (Value × List Char) :=
  let (negative, unsigned) := Decimal.Numeral.takeSign s
  match digits? unsigned with
  | none => none
  | some (whole, rest) =>
    let (fraction, rest) := fraction rest
    if rest.head?.any continuesKey then none
    else (numberValue? negative whole fraction).map fun v => (v, rest)

/-- Read the index of an item. -/
def index? (s : List Char) : Option (PathStep × List Char) :=
  match digits? s with
  | none => none
  | some (digits, rest) =>
    let n := Decimal.digitsValue digits
    if n ≤ Whole.greatestCount then some (.index n, rest) else none

/-- Read a step behind a point. -/
def dotted? (s : List Char) : Option (PathStep × List Char) :=
  match index? s with
  | some found => some found
  | none => (key? s).map fun (name, rest) => (.key (String.ofList name), rest)

/-- Read a step between brackets, behind the opening one. -/
def bracketed? (s : List Char) : Option (PathStep × List Char) :=
  let inner := match index? s with
    | some found => some found
    | none => (quoted? s).map fun (name, rest) => (PathStep.key (String.ofList name), rest)
  match inner with
  | some (step, ']' :: rest) => some (step, rest)
  | _ => none

/-- Read a step of a path. -/
def step? : List Char → Option (PathStep × List Char)
  | '.' :: s => dotted? s
  | '[' :: s => bracketed? s
  | _ => none

theorem length_dropWhile_le (p : Char → Bool) (s : List Char) :
    (s.dropWhile p).length ≤ s.length :=
  (List.dropWhile_sublist p).length_le

theorem length_lt_of_key? {s name rest : List Char} (h : key? s = some (name, rest)) :
    rest.length < s.length := by
  cases s with
  | nil => simp [key?] at h
  | cons c s =>
    simp only [key?] at h
    split at h
    · obtain ⟨rfl, rfl⟩ := by simpa using h
      have := length_dropWhile_le continuesKey s
      simp only [List.length_cons]; omega
    · simp at h

theorem length_lt_of_quoted? {s text rest : List Char} (h : quoted? s = some (text, rest)) :
    rest.length < s.length := by
  cases s with
  | nil => simp [quoted?] at h
  | cons c s =>
    simp only [quoted?] at h
    split at h
    · have := length_dropWhile_le (· != c) s
      split at h
      · simp at h
      · rename_i hd
        obtain ⟨rfl, rfl⟩ := by simpa using h
        rw [hd] at this
        simp only [List.length_cons] at this ⊢; omega
    · simp at h

theorem length_lt_of_digits? {s digits rest : List Char} (h : digits? s = some (digits, rest)) :
    rest.length < s.length := by
  simp only [digits?] at h
  split at h
  · simp at h
  · rename_i hne
    obtain ⟨rfl, rfl⟩ := by simpa using h
    have happ := congrArg List.length (List.takeWhile_append_dropWhile (p := Char.isDigit) (l := s))
    have : 0 < (s.takeWhile Char.isDigit).length :=
      List.length_pos_iff.2 (by simpa using hne)
    simp only [List.length_append] at happ; omega

theorem length_lt_of_index? {s rest : List Char} {step : PathStep}
    (h : index? s = some (step, rest)) : rest.length < s.length := by
  simp only [index?] at h
  split at h
  · simp at h
  · rename_i hd
    split at h
    · obtain ⟨_, rfl⟩ := by simpa using h
      exact length_lt_of_digits? hd
    · simp at h

theorem length_lt_of_step? {s rest : List Char} {step : PathStep}
    (h : step? s = some (step, rest)) : rest.length < s.length := by
  unfold step? at h
  -- A point with an index or a name behind it, or a bracket: each reader below takes at least one
  -- character.
  split at h
  · rename_i s
    simp only [dotted?] at h
    split at h
    · rename_i hi
      cases h
      have := length_lt_of_index? hi
      simp only [List.length_cons]; omega
    · obtain ⟨⟨name, tail⟩, hk, e⟩ := Option.map_eq_some_iff.1 h
      simp only [Prod.mk.injEq] at e
      obtain ⟨_, rfl⟩ := e
      have := length_lt_of_key? hk
      simp only [List.length_cons]; omega
  · rename_i s
    simp only [bracketed?] at h
    split at h
    · rename_i seg tail hinner
      obtain ⟨_, rfl⟩ := by simpa using h
      split at hinner
      · rename_i hi
        cases hinner
        have := length_lt_of_index? hi
        simp only [List.length_cons] at this ⊢; omega
      · obtain ⟨⟨name, tail'⟩, hq, e⟩ := Option.map_eq_some_iff.1 hinner
        simp only [Prod.mk.injEq] at e
        obtain ⟨_, rfl⟩ := e
        have := length_lt_of_quoted? hq
        simp only [List.length_cons] at this ⊢; omega
    · simp at h
  · simp at h

/-- Read as many steps as there are. -/
def steps (s : List Char) : List PathStep × List Char :=
  match _found : step? s with
  | none => ([], s)
  | some (step, rest) => (step :: (steps rest).1, (steps rest).2)
termination_by s.length
decreasing_by all_goals exact length_lt_of_step? _found

/-- Read a path. -/
def path? (s : List Char) : Option (Path × List Char) :=
  (key? s).map fun (root, rest) => (⟨String.ofList root, (steps rest).1⟩, (steps rest).2)

/-- What an unquoted word stands for: three words are values, every other one is a path. -/
def ofPath (path : Path) : ArgumentSource :=
  if path.steps.isEmpty then
    match path.root with
    | "true" => .literal (.bool true)
    | "false" => .literal (.bool false)
    | "nil" | "null" => .literal .null
    | _ => .path path
  else .path path

/-- Read the value of an argument. -/
def value? (s : List Char) : Option (ArgumentSource × List Char) :=
  match quoted? s with
  | some (text, rest) => some (.literal (.string (String.ofList text)), rest)
  | none => match number? s with
    | some (v, rest) => some (.literal v, rest)
    | none => (path? s).map fun (path, rest) => (ofPath path, rest)

/-- The text `s` without plain white space at its start. -/
def dropBlank (s : List Char) : List Char :=
  s.dropWhile Text.isPlainSpace

/-- Read the sign and the value behind a key. -/
def assigned? (s : List Char) : Option (ArgumentSource × List Char) :=
  match dropBlank s with
  | c :: rest => if c == '=' || c == ':' then value? (dropBlank rest) else none
  | [] => none

/-- Read an item. -/
def item? (s : List Char) : Option (ArgumentItem × List Char) :=
  (key? s).map fun (key, rest) =>
    match assigned? rest with
    | some (source, rest) => (⟨String.ofList key, source⟩, rest)
    | none => (⟨String.ofList key, .absent⟩, rest)

/-- Read what separates two items: a comma with blanks around it, or blanks. -/
def separator? (s : List Char) : Option (List Char) :=
  match dropBlank s with
  | ',' :: rest => some (dropBlank rest)
  | rest => if rest.length < s.length then some rest else none

theorem length_le_of_dropBlank (s : List Char) : (dropBlank s).length ≤ s.length :=
  length_dropWhile_le _ s

theorem length_le_of_steps (s : List Char) : (steps s).2.length ≤ s.length := by
  induction s using steps.induct with
  | case1 s h => rw [steps]; split <;> simp_all
  | case2 s step rest h ih =>
    have := length_lt_of_step? h
    rw [steps]
    split
    · simp
    · simp_all only [Option.some.injEq, Prod.mk.injEq]
      omega

theorem length_lt_of_number? {s rest : List Char} {v : Value}
    (h : number? s = some (v, rest)) : rest.length < s.length := by
  -- The sign and the fraction may be missing, the digits of the whole part may not.
  have hsign : (Decimal.Numeral.takeSign s).2.length ≤ s.length := by
    unfold Decimal.Numeral.takeSign; split <;> simp
  have hfraction : ∀ t : List Char, (fraction t).2.length ≤ t.length := by
    intro t
    unfold fraction
    split
    · split
      · rename_i hd
        have := length_lt_of_digits? hd
        simp only [List.length_cons]; omega
      · simp
    · simp
  simp only [number?] at h
  split at h
  · simp at h
  · rename_i whole tail hd
    have := length_lt_of_digits? hd
    have := hfraction tail
    split at h
    · simp at h
    · obtain ⟨_, _, e⟩ := Option.map_eq_some_iff.1 h
      simp only [Prod.mk.injEq] at e
      obtain ⟨_, rfl⟩ := e
      omega

theorem length_lt_of_value? {s rest : List Char} {source : ArgumentSource}
    (h : value? s = some (source, rest)) : rest.length < s.length := by
  simp only [value?] at h
  split at h
  · rename_i hq
    obtain ⟨_, rfl⟩ := by simpa using h
    exact length_lt_of_quoted? hq
  · split at h
    · rename_i hn
      obtain ⟨_, rfl⟩ := by simpa using h
      exact length_lt_of_number? hn
    · obtain ⟨⟨path, tail⟩, hp, e⟩ := Option.map_eq_some_iff.1 h
      simp only [Prod.mk.injEq] at e
      obtain ⟨_, rfl⟩ := e
      obtain ⟨⟨root, tail'⟩, hk, e⟩ := Option.map_eq_some_iff.1 hp
      simp only [Prod.mk.injEq] at e
      obtain ⟨_, rfl⟩ := e
      have := length_lt_of_key? hk
      have := length_le_of_steps tail'
      omega

theorem length_lt_of_item? {s rest : List Char} {item : ArgumentItem}
    (h : item? s = some (item, rest)) : rest.length < s.length := by
  obtain ⟨⟨key, tail⟩, hk, e⟩ := Option.map_eq_some_iff.1 h
  have := length_lt_of_key? hk
  simp only at e
  -- The key takes something in both cases, and a value behind it takes more.
  split at e
  · rename_i ha
    simp only [Prod.mk.injEq] at e
    obtain ⟨_, rfl⟩ := e
    simp only [assigned?] at ha
    have := length_le_of_dropBlank tail
    split at ha
    · rename_i c rest' hb
      have := length_le_of_dropBlank rest'
      split at ha
      · have := length_lt_of_value? ha
        simp_all only [List.length_cons]
        omega
      · simp at ha
    · simp at ha
  · simp only [Prod.mk.injEq] at e
    obtain ⟨_, rfl⟩ := e
    assumption

theorem length_lt_of_separator? {s rest : List Char} (h : separator? s = some rest) :
    rest.length < s.length := by
  have := length_le_of_dropBlank s
  simp only [separator?] at h
  split at h
  · rename_i tail hb
    have := length_le_of_dropBlank tail
    obtain rfl := by simpa using h
    simp_all only [List.length_cons]
    omega
  · split at h
    · obtain rfl := by simpa using h
      assumption
    · simp at h

/-- Read as many separated items as there are behind a first one. -/
def moreItems (s : List Char) : List ArgumentItem × List Char :=
  match _separated : separator? s with
  | none => ([], s)
  | some rest =>
    match _found : item? rest with
    | none => ([], s)
    | some (item, rest') => (item :: (moreItems rest').1, (moreItems rest').2)
termination_by s.length
decreasing_by
  all_goals
    have := length_lt_of_separator? _separated
    have := length_lt_of_item? _found
    omega

/-- Read as many items as there are. -/
def items (s : List Char) : List ArgumentItem × List Char :=
  match item? s with
  | none => ([], s)
  | some (item, rest) => (item :: (moreItems rest).1, (moreItems rest).2)

/-- Read one comma, with blanks before it, if it is there. -/
def dropTrailingComma (s : List Char) : List Char :=
  match dropBlank s with
  | ',' :: rest => rest
  | _ => s

/-- The items of the argument text `s`, or what is left where the text stops following the
grammar. -/
def arguments (s : List Char) : Except (List Char) (List ArgumentItem) :=
  let (found, rest) := items (dropBlank s)
  match dropBlank (dropTrailingComma rest) with
  | [] => .ok found
  | rest => .error rest

/-- How many characters of the offending text an error shows. -/
def snippetLength : Nat := 24

/-- The description of the place where an argument text stops following the grammar, with `rest`
left of it. -/
def unexpected (rest : List Char) : String :=
  "unexpected input at `" ++ String.ofList (rest.take snippetLength) ++ "`"

end Promptbook.Grammar

namespace Promptbook

/-- The items of the argument text `text`, or a description of the place where it stops following
the grammar. -/
def ArgumentItem.parseAll (text : String) : Except String (List ArgumentItem) :=
  (Grammar.arguments text.toList).mapError Grammar.unexpected

/-- The path that `text` is, white space around it apart. -/
def Path.parse? (text : String) : Option Path :=
  match Grammar.path? (Text.trimSpace text.toList) with
  | some (path, []) => some path
  | _ => none

end Promptbook
