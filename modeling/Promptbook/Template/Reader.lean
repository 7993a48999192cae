import Promptbook.Template.Element
import Promptbook.Template.Tag

/-!
# Reading Templates

Understands a sequence of elements as nodes. Tags that the host provides come first, then tags
without a block, then blocks. A reader takes elements from the front of the sequence, also when it
fails: a comment passes over everything inside it that cannot be read.
-/

namespace Promptbook.Template

/-- Something that is read from a sequence of elements. -/
abbrev Reading := EStateM Misreading (List SpelledElement)

/-- The tags that the host provides, each with the reader of its words. -/
abbrev HostTags := String → Option (List SpelledWord → Except Misreading Node)

/-- What ends a body: its end tag, or a tag that starts the next part of the block. -/
inductive BodyEnd where
  /-- The end tag of the block. -/
  | ended
  /-- Another tag. -/
  | tag (name : String) (words : List SpelledWord)
  deriving Inhabited

/-- Take the next element of the block `block`. -/
def nextElement (block : String) : Reading SpelledElement := do
  match ← get with
  | [] => throw (.unclosed block)
  | e :: rest =>
    set rest
    return e

/-- Turn a result into a reading that takes nothing. -/
def ofExcept {α : Type} : Except Misreading α → Reading α
  | .ok a => pure a
  | .error e => throw e

/-- The fault of a tag that does not have its form, unless the tag has no words. -/
def expectNothing (tag : String) (words : List SpelledWord) : Reading Unit :=
  if words.isEmpty then pure () else throw (.malformedTag tag)

/-- The name of the end tag of `block`. -/
def endOf (block : String) : String :=
  "end" ++ block

mutual

/-- Read a tag, with its block if it has one. The `fuel` bounds the number of elements. -/
def readTag (host : HostTags) : (fuel : Nat) → String → List SpelledWord → Reading Node
  | 0, name, _ => throw (.unclosed name)
  | fuel + 1, name, words => do
    match host name with
    | some read => ofExcept (read words)
    | none =>
      match simpleTag? name words with
      | some result => ofExcept result
      | none => readBlock host fuel name words

/-- Read a block. -/
def readBlock (host : HostTags) : (fuel : Nat) → String → List SpelledWord → Reading Node
  | 0, name, _ => throw (.unclosed name)
  | fuel + 1, name, words => do
    match name with
    | "if" => readIf host fuel "if" words
    | "unless" =>
      let condition ← ofExcept (formed name (condition? words))
      let (body, stop) ← readBody host fuel name ["else"]
      let otherwise ← readElse host fuel name stop
      return .branch false condition body otherwise
    | "case" =>
      match words with
      | [subject] =>
        let e ← ofExcept (formed name subject.expression?)
        let (_, stop) ← readBody host fuel name ["when", "else"]
        let (arms, otherwise) ← readArms host fuel stop
        return .select e arms otherwise
      | _ => throw (.malformedTag name)
    | "for" =>
      let head ← ofExcept (formed name (loopHead? false words))
      let (body, stop) ← readBody host fuel name ["else"]
      let otherwise ← readElse host fuel name stop
      return .loop head body otherwise
    | "tablerow" =>
      let head ← ofExcept (formed name (loopHead? true words))
      let (body, _) ← readBody host fuel name []
      return .table head body
    | "capture" =>
      let target ← ofExcept (formed name (onlyName? words))
      let (body, _) ← readBody host fuel name []
      return .capture target body
    | "ifchanged" =>
      expectNothing name words
      let (body, _) ← readBody host fuel name []
      return .whenChanged body
    | "raw" =>
      expectNothing name words
      let text ← readRaw fuel
      return .text (String.ofList text)
    | "comment" =>
      expectNothing name words
      readComment host fuel
      return .nothing
    | _ => throw (.unknownTag name)

/-- Read a conditional block behind the tag that states its condition. -/
def readIf (host : HostTags) : (fuel : Nat) → String → List SpelledWord → Reading Node
  | 0, name, _ => throw (.unclosed name)
  | fuel + 1, name, words => do
    let condition ← ofExcept (formed name (condition? words))
    let (body, stop) ← readBody host fuel "if" ["elsif", "else"]
    match stop with
    | .tag "elsif" words =>
      let next ← readIf host fuel "elsif" words
      return .branch true condition body [next]
    | _ =>
      let otherwise ← readElse host fuel "if" stop
      return .branch true condition body otherwise

/-- Read the last part of a block, if the part before it ended with the tag that starts it. In
loops and selections that tag has no words; in conditional blocks its words do not matter. -/
def readElse (host : HostTags) : (fuel : Nat) → String → BodyEnd → Reading (List Node)
  | 0, name, _ => throw (.unclosed name)
  | _ + 1, _, .ended => pure []
  | fuel + 1, block, .tag name words => do
    if block == "for" || block == "case" then expectNothing name words
    let (body, _) ← readBody host fuel block []
    return body

/-- Read the arms of a selection. -/
def readArms (host : HostTags) :
    (fuel : Nat) → BodyEnd → Reading (List (List Expression × List Node) × List Node)
  | 0, _ => throw (.unclosed "case")
  | _ + 1, .ended => pure ([], [])
  | fuel + 1, .tag "when" words => do
    let values ← ofExcept (formed "when" (armValues? words))
    let (body, stop) ← readBody host fuel "case" ["when", "else"]
    let (arms, otherwise) ← readArms host fuel stop
    return ((values, body) :: arms, otherwise)
  | fuel + 1, .tag name words => do
    let otherwise ← readElse host fuel "case" (.tag name words)
    return ([], otherwise)

/-- Read nodes up to the end of a block or to a tag that starts its next part. -/
def readBody (host : HostTags) :
    (fuel : Nat) → String → List String → Reading (List Node × BodyEnd)
  | 0, block, _ => throw (.unclosed block)
  | fuel + 1, block, stops => do
    let e ← nextElement block
    match e.element with
    | .tag name words =>
      if name == endOf block then
        expectNothing name words
        return ([], .ended)
      else if stops.contains name then return ([], .tag name words)
      else
        let node ← readTag host fuel name words
        let (more, stop) ← readBody host fuel block stops
        return (node :: more, stop)
    | .output written =>
      let chain ← ofExcept written.resolve
      let (more, stop) ← readBody host fuel block stops
      return (.output chain :: more, stop)
    | .text =>
      let (more, stop) ← readBody host fuel block stops
      return (.text (String.ofList e.spelling) :: more, stop)
    | .invalid => throw .invalidMarkup

/-- Read the spelling of everything up to the end of a raw block. An end tag with words is not the
end. -/
def readRaw : (fuel : Nat) → Reading (List Char)
  | 0 => throw (.unclosed "raw")
  | fuel + 1 => do
    let e ← nextElement "raw"
    match e.element with
    | .tag "endraw" [] => return []
    | _ =>
      let more ← readRaw fuel
      return e.spelling ++ more

/-- Pass over everything up to the end of a comment. Comments nest; other tags are read with their
blocks, and what is wrong with them is ignored. -/
def readComment (host : HostTags) : (fuel : Nat) → Reading Unit
  | 0 => throw (.unclosed "comment")
  | fuel + 1 => do
    let e ← nextElement "comment"
    match e.element with
    | .tag "endcomment" words => expectNothing "endcomment" words
    | .tag "comment" words =>
      let _ ← readTag host fuel "comment" words
      readComment host fuel
    | .tag name words =>
      try
        let _ ← readTag host fuel name words
      catch _ => pure ()
      readComment host fuel
    | _ => readComment host fuel

end

/-- Read nodes up to the end of the template. The `fuel` bounds the number of elements. -/
def readAll (host : HostTags) : (fuel : Nat) → Reading (List Node)
  | 0 => pure []
  | fuel + 1 => do
    match ← get with
    | [] => return []
    | e :: rest =>
      set rest
      let node : Node ← match e.element with
        -- Behind each element stand at most six readers, one inside the other.
        | .tag name words => readTag host (6 * rest.length + 6) name words
        | .output written => Node.output <$> ofExcept written.resolve
        | .text => pure (.text (String.ofList e.spelling))
        | .invalid => throw .invalidMarkup
      let more ← readAll host fuel
      return node :: more

/-- Read the template `source`, with the tags that `host` provides. -/
def readTemplate (host : HostTags) (source : String) : Except Misreading (List Node) :=
  let parts := elements source.toList
  match (readAll host parts.length).run parts with
  | .ok nodes _ => .ok nodes
  | .error e _ => .error e

end Promptbook.Template
