import Promptbook.Text.Letter
import Promptbook.Text.Table.Cluster

/-!
# User-Perceived Characters

Splits a text into clusters: the units that a reader takes for one character, such as a letter with
its accents, a syllable block, a flag, or pictographs linked by a joiner.
-/

namespace Promptbook.Text

/-- The break class of a character. -/
inductive ClusterClass where
  /-- A carriage return. -/
  | carriage
  /-- A line feed. -/
  | feed
  /-- Another control character. -/
  | control
  /-- A mark that extends the character before it. -/
  | extend
  /-- A mark that also links the consonant before it to the one after it. -/
  | linker
  /-- A mark that extends the character before it and keeps consonants from being linked. -/
  | nonJoiner
  /-- A consonant that can be linked. -/
  | consonant
  /-- The zero-width joiner. -/
  | joiner
  /-- A regional indicator; two of them are a flag. -/
  | regional
  /-- A character that joins the one after it. -/
  | prepend
  /-- A spacing mark, which joins the character before it. -/
  | spacing
  /-- A leading consonant of a syllable block. -/
  | leading
  /-- A vowel of a syllable block. -/
  | vowel
  /-- A trailing consonant of a syllable block. -/
  | trailing
  /-- A syllable block without trailing consonant. -/
  | openBlock
  /-- A syllable block with trailing consonant. -/
  | closedBlock
  /-- A pictograph. -/
  | pictograph
  /-- Any other character. -/
  | other
  deriving DecidableEq

/-- The break class of a character. -/
def clusterClass (c : Char) : ClusterClass :=
  let n := c.toNat
  if n == 13 then .carriage
  else if n == 10 then .feed
  else if n == 0x200D then .joiner
  else if inRanges Table.clusterControl n then .control
  else if n < 128 then .other
  else if n == 0x200C then .nonJoiner
  else if inRanges Table.clusterLinker n then .linker
  else if inRanges Table.clusterExtend n then .extend
  else if inRanges Table.clusterConsonant n then .consonant
  else if 0x1F1E6 ≤ n && n ≤ 0x1F1FF then .regional
  else if inRanges Table.clusterPrepend n then .prepend
  else if inRanges Table.clusterSpacing n then .spacing
  else if (0x1100 ≤ n && n ≤ 0x115F) || (0xA960 ≤ n && n ≤ 0xA97C) then .leading
  else if (0x1160 ≤ n && n ≤ 0x11A7) || (0xD7B0 ≤ n && n ≤ 0xD7C6) then .vowel
  else if (0x11A8 ≤ n && n ≤ 0x11FF) || (0xD7CB ≤ n && n ≤ 0xD7FB) then .trailing
  else if 0xAC00 ≤ n && n ≤ 0xD7A3 then
    if (n - 0xAC00) % 28 == 0 then .openBlock else .closedBlock
  else if inRanges Table.pictographic n then .pictograph
  else .other

/-- Whether a mark extends the character before it. -/
def ClusterClass.extends : ClusterClass → Bool
  | .extend | .linker | .nonJoiner => true
  | _ => false

/-- How far consonants are linked at the end of a text. -/
inductive ConsonantLink where
  /-- No consonant stands at the end. -/
  | none
  /-- A consonant with marks, none of which links. -/
  | open
  /-- A consonant with marks, one of which links. -/
  | linked
  deriving DecidableEq

/-- The link behind one more character. -/
def ConsonantLink.next (link : ConsonantLink) : ClusterClass → ConsonantLink
  | .consonant => .open
  | .linker => if link = .none then .none else .linked
  | .extend | .joiner => link
  | _ => .none

/-- What of the text before a character decides whether the character joins it. -/
structure ClusterState where
  /-- The class of the last character. -/
  last : ClusterClass
  /-- Whether an odd number of regional indicators stands at the end. -/
  oddRegional : Bool
  /-- Whether a pictograph with marks stands at the end. -/
  pictograph : Bool
  /-- Whether a pictograph with marks and a joiner stands at the end. -/
  joined : Bool
  /-- How far consonants are linked at the end. -/
  link : ConsonantLink

namespace ClusterState

/-- The state behind one more character. -/
def next (state : ClusterState) (c : ClusterClass) : ClusterState :=
  ⟨c, c == .regional && !(state.last == .regional && state.oddRegional),
    c == .pictograph || (c.extends && state.pictograph), c == .joiner && state.pictograph,
    state.link.next c⟩

/-- The state behind a first character. -/
def first (c : ClusterClass) : ClusterState :=
  next ⟨.other, false, false, false, .none⟩ c

/-- Whether a character joins the text before it. -/
def joins (state : ClusterState) (c : ClusterClass) : Bool :=
  match state.last, c with
  -- Controls stand alone, apart from the two characters of a line end.
  | .carriage, .feed => true
  | .carriage, _ | .feed, _ | .control, _ => false
  | _, .carriage | _, .feed | _, .control => false
  -- Marks and joiners belong to what is before them.
  | _, .extend | _, .linker | _, .nonJoiner | _, .joiner | _, .spacing => true
  | .prepend, _ => true
  -- Consonants and vowels build a syllable block in their order.
  | .leading, .leading | .leading, .vowel | .leading, .openBlock | .leading, .closedBlock => true
  | .openBlock, .vowel | .openBlock, .trailing | .vowel, .vowel | .vowel, .trailing => true
  | .closedBlock, .trailing | .trailing, .trailing => true
  -- Consonants are linked by signs, pictographs by joiners, and flags are pairs.
  | _, .consonant => state.link == .linked
  | .joiner, .pictograph => state.joined
  | .regional, .regional => state.oddRegional
  | _, _ => false

end ClusterState

/-- The clusters of a text, given the state behind the character before it and that character's
cluster, read backwards. -/
def clustersFrom (state : ClusterState) (cluster : List Char) : List Char → List (List Char)
  | [] => [cluster.reverse]
  | c :: s =>
    if state.joins (clusterClass c) then
      clustersFrom (state.next (clusterClass c)) (c :: cluster) s
    else cluster.reverse :: clustersFrom (state.next (clusterClass c)) [c] s

/-- The user-perceived characters of a text. -/
def clusters : List Char → List (List Char)
  | [] => []
  | c :: s => clustersFrom (.first (clusterClass c)) [c] s

end Promptbook.Text
