import Promptbook.Proofs.Template.Operands
import Promptbook.Template.Reader

/-!
# Variables that a Template Reads

Which variables are read at the heads of outputs, in conditions and in the sources of loops, said
once for the nodes of a template and once for its elements. Reading the nodes takes nothing from
elsewhere: what a node reads is read by one of the elements that it was made of.

## Main definitions

* `Element.reads`, `Node.reads`: the variables that an element or a node reads.
* `Takes`: reading takes elements from the front, and what it finds reads no other variables than
  they.

## Main results

* `exists_operands_of_condition?`: the variables of a condition are those of the operands of its
  tag.
* `exists_reads_of_readTemplate`: what the nodes of a template read is read by its elements.
-/

namespace Promptbook.Template

/-- The variables of a condition. -/
def Condition.roots : Condition → List String
  | .exists e => e.roots
  | .compare left _ right => left.roots ++ right.roots
  | .and left right => left.roots ++ right.roots
  | .or left right => left.roots ++ right.roots

/-- The variables in the source of a loop. -/
def LoopSource.roots : LoopSource → List String
  | .items e => e.roots
  | .range first last => first.roots ++ last.roots

/-- The variable at the head of a chain that starts with `e`. -/
def headRoots (e : Expression) : List String :=
  e.head?.toList

/-- The variables that the tag `name` with `words` reads: those of the operands of a condition, or
those in the source of a loop. -/
def tagReads (name : String) (words : List SpelledWord) : List String :=
  match name with
  | "if" | "elsif" | "unless" => ((condition? words).map Condition.roots).getD []
  | "case" =>
    match words with
    | [subject] => (subject.expression?.map Expression.roots).getD []
    | _ => []
  | "when" => ((armValues? words).map rootsOfAll).getD []
  | "for" => ((loopHead? false words).map fun head => head.source.roots).getD []
  | _ => []

/-- The variables that an element reads. -/
def Element.reads : Element → List String
  | .output written => headRoots written.entry
  | .tag name words => tagReads name words
  | .text => []
  | .invalid => []

mutual

/-- The variables that a node reads at the heads of outputs, in conditions and in the sources of
loops. -/
def Node.reads : Node → List String
  | .output chain => headRoots chain.entry
  | .capture _ body => nodesRead body
  | .branch _ condition body otherwise => condition.roots ++ nodesRead body ++ nodesRead otherwise
  | .select subject arms otherwise => subject.roots ++ armsRead arms ++ nodesRead otherwise
  | .loop head body otherwise => head.source.roots ++ nodesRead body ++ nodesRead otherwise
  | .table _ body => nodesRead body
  | .whenChanged body => nodesRead body
  | .text _ | .call _ | .assign _ _ | .increment _ | .decrement _ | .cycle _ _ | .leave | .skip
  | .partialTemplate _ _ | .nothing => []

/-- The variables that nodes read. -/
def nodesRead : List Node → List String
  | [] => []
  | node :: rest => node.reads ++ nodesRead rest

/-- The variables that the arms of a selection read. -/
def armsRead : List (List Expression × List Node) → List String
  | [] => []
  | (values, body) :: rest => rootsOfAll values ++ nodesRead body ++ armsRead rest

end

section Conditions

/-- There are no `words`, or they are a joint with the operands `es` behind it. -/
def Continues (words : List SpelledWord) (es : List Expression) : Prop :=
  (words = [] ∧ es = []) ∨ ∃ joint rest, words = joint :: rest ∧
    (joint.spelling ∈ signJoints ∨ joint.spelling ∈ wordJoints) ∧ Operands rest es

variable {words rest : List SpelledWord} {c : Condition} {es : List Expression}

/-- An operand `e` in front of words that continue with `es` makes operands of all of them. -/
theorem Continues.operands (h : Continues rest es) {w : SpelledWord} {e : Expression}
    (he : w.expression? = some e) : Operands (w :: rest) (e :: es) := by
  obtain ⟨rfl, rfl⟩ | ⟨joint, more, rfl, hjoint, hmore⟩ := h
  · exact .last he
  · exact .more he hjoint hmore

/-- A comparison is a joint. -/
theorem mem_joints_of_comparison? {w : SpelledWord} {comparison : Comparison}
    (h : w.comparison? = some comparison) :
    w.spelling ∈ signJoints ∨ w.spelling ∈ wordJoints := by
  have hall : ∀ spelling ∈ ["==", "!=", "<>", "<", ">", "<=", ">=", "contains"],
      spelling ∈ signJoints ∨ spelling ∈ wordJoints := by
    decide
  refine hall _ ?_
  unfold SpelledWord.comparison? at h
  split at h
  case h_9 => cases h
  all_goals
    rename_i heq
    rw [heq]
    decide

/-- A condition without conjunctions consists of an operand or two. -/
theorem exists_operands_of_simpleCondition? (h : simpleCondition? words = some (c, rest))
    (hrest : Continues rest es) :
    ∃ es', Operands words (es' ++ es) ∧ c.roots = rootsOfAll es' := by
  unfold simpleCondition? at h
  -- One operand at the end, one before a word that joins, or two with a comparison between them.
  split at h
  · cases h
  · next left more =>
    split at h
    · cases h
    · next l hl =>
      split at h
      · cases h
        exact ⟨[l], hrest.operands hl, by simp [Condition.roots, rootsOfAll]⟩
      · next w more' =>
        split at h
        · cases h
          exact ⟨[l], hrest.operands hl, by simp [Condition.roots, rootsOfAll]⟩
        · next comparison hcomparison =>
          split at h
          · cases h
          · next right more'' =>
            obtain ⟨r, hr, heq⟩ := Option.map_eq_some_iff.1 h
            cases heq
            exact ⟨[l, r], .more hl (mem_joints_of_comparison? hcomparison) (hrest.operands hr),
              by simp [Condition.roots, rootsOfAll]⟩

theorem rootsOfAll_append (es es' : List Expression) :
    rootsOfAll (es ++ es') = rootsOfAll es ++ rootsOfAll es' := by
  induction es with
  | nil => rfl
  | cons e es ih => rw [List.cons_append, rootsOfAll, rootsOfAll, ih, List.append_assoc]

/-- Behind a condition stand the operands of those that are joined to it by `and`. -/
theorem exists_continues_of_moreBoth {fuel : Nat} {left : Condition}
    (h : moreBoth fuel left words = some (c, rest)) (hrest : Continues rest es) :
    ∃ es', Continues words (es' ++ es) ∧ c.roots = left.roots ++ rootsOfAll es' := by
  -- On the fuel, with what stands on the left generalised: it grows by the condition read last.
  induction fuel generalizing left words with
  | zero =>
    cases h
    exact ⟨[], hrest, (List.append_nil _).symm⟩
  | succ fuel ih =>
    unfold moreBoth at h
    split at h
    · cases h
      exact ⟨[], hrest, (List.append_nil _).symm⟩
    · next w more =>
      split at h
      · next hand =>
        split at h
        · cases h
        · next right rest' hright =>
          -- The operands behind the condition come first, as they are what its own ones continue
          -- with.
          obtain ⟨es₁, hcontinues, hroots⟩ := ih h
          obtain ⟨es₂, hoperands, hroots'⟩ :=
            exists_operands_of_simpleCondition? hright hcontinues
          refine ⟨es₂ ++ es₁, .inr ⟨w, more, rfl, ?_, ?_⟩, ?_⟩
          · rw [beq_iff_eq.1 hand]
            decide
          · rw [List.append_assoc]
            exact hoperands
          · rw [hroots, Condition.roots, hroots', rootsOfAll_append, List.append_assoc]
      · cases h
        exact ⟨[], hrest, (List.append_nil _).symm⟩

theorem exists_operands_of_bothCondition? (h : bothCondition? words = some (c, rest))
    (hrest : Continues rest es) :
    ∃ es', Operands words (es' ++ es) ∧ c.roots = rootsOfAll es' := by
  obtain ⟨⟨left, mid⟩, hleft, hmore⟩ := Option.bind_eq_some_iff.1 h
  obtain ⟨es₁, hcontinues, hroots⟩ := exists_continues_of_moreBoth hmore hrest
  obtain ⟨es₂, hoperands, hroots'⟩ := exists_operands_of_simpleCondition? hleft hcontinues
  refine ⟨es₂ ++ es₁, ?_, ?_⟩
  · rw [List.append_assoc]
    exact hoperands
  · rw [hroots, hroots', rootsOfAll_append]

/-- Behind a condition stand the operands of those that are joined to it by `or`. -/
theorem exists_continues_of_moreEither {fuel : Nat} {left : Condition}
    (h : moreEither fuel left words = some c) :
    ∃ es, Continues words es ∧ c.roots = left.roots ++ rootsOfAll es := by
  -- As for `and`, but nothing may stand behind the last condition.
  induction fuel generalizing left words with
  | zero =>
    cases words with
    | nil =>
      cases h
      exact ⟨[], .inl ⟨rfl, rfl⟩, (List.append_nil _).symm⟩
    | cons w more => cases h
  | succ fuel ih =>
    cases words with
    | nil =>
      cases h
      exact ⟨[], .inl ⟨rfl, rfl⟩, (List.append_nil _).symm⟩
    | cons w more =>
      unfold moreEither at h
      split at h
      · next hor =>
        split at h
        · cases h
        · next right rest' hright =>
          obtain ⟨es₁, hcontinues, hroots⟩ := ih h
          obtain ⟨es₂, hoperands, hroots'⟩ := exists_operands_of_bothCondition? hright hcontinues
          refine ⟨es₂ ++ es₁, .inr ⟨w, more, rfl, ?_, hoperands⟩, ?_⟩
          · rw [beq_iff_eq.1 hor]
            decide
          · rw [hroots, Condition.roots, hroots', rootsOfAll_append, List.append_assoc]
      · cases h

/-- The words of a condition are operands, and its variables are those of the operands. -/
theorem exists_operands_of_condition? (h : condition? words = some c) :
    ∃ es, Operands words es ∧ c.roots = rootsOfAll es := by
  obtain ⟨⟨left, mid⟩, hleft, hmore⟩ := Option.bind_eq_some_iff.1 h
  obtain ⟨es₁, hcontinues, hroots⟩ := exists_continues_of_moreEither hmore
  obtain ⟨es₂, hoperands, hroots'⟩ := exists_operands_of_bothCondition? hleft hcontinues
  exact ⟨es₂ ++ es₁, hoperands, by rw [hroots, hroots', rootsOfAll_append]⟩

/-- The words of an arm are its values with joints between them. -/
theorem operands_of_armValues? (h : armValues? words = some es) : Operands words es := by
  unfold armValues? at h
  induction words using separatedValues?.induct (fun s => s == "or" || s == ",")
    generalizing es with
  | case1 => cases h
  | case2 w =>
    obtain ⟨e, he, rfl⟩ := Option.map_eq_some_iff.1 h
    exact .last he
  | case3 w separator more hseparates ih =>
    unfold separatedValues? at h
    rw [if_pos hseparates] at h
    obtain ⟨e, he, h⟩ := Option.bind_eq_some_iff.1 h
    obtain ⟨es', hmore, rfl⟩ := Option.map_eq_some_iff.1 h
    refine .more he ?_ (ih hmore)
    simp only [Bool.or_eq_true, beq_iff_eq] at hseparates
    rcases hseparates with heq | heq <;> rw [heq] <;> decide
  | case4 w separator more hseparates =>
    unfold separatedValues? at h
    rw [if_neg hseparates] at h
    cases h

end Conditions

section Reading

variable {α β : Type} {own own' : List String} {read : Reading α} {f : α → List String}

/-- The outcome of reading from the elements `s`: some have been taken from the front, and the
variables `f` of what was found are among those of `own` or read by the elements. -/
def Taken (own : List String) (s : List SpelledElement) (f : α → List String) :
    EStateM.Result Misreading (List SpelledElement) α → Prop
  | .ok a rest => rest <:+ s ∧ ∀ root ∈ f a, root ∈ own ∨ ∃ e ∈ s, root ∈ e.element.reads
  | .error _ rest => rest <:+ s

/-- What is taken from the end `rest` of the elements is taken from all of them. -/
theorem Taken.of_suffix {s rest : List SpelledElement}
    {outcome : EStateM.Result Misreading (List SpelledElement) α}
    (h : Taken own' rest f outcome) (hrest : rest <:+ s)
    (hown : ∀ root ∈ own', root ∈ own ∨ ∃ e ∈ s, root ∈ e.element.reads) :
    Taken own s f outcome := by
  cases outcome with
  | error e rest' => exact List.IsSuffix.trans h hrest
  | ok a rest' =>
    refine ⟨h.1.trans hrest, fun root hroot => ?_⟩
    rcases h.2 root hroot with hroot | ⟨e, he, hroot⟩
    · exact hown root hroot
    · exact .inr ⟨e, hrest.subset he, hroot⟩

/-- Reading takes elements from the front, and the variables `f` of what it finds are among those of
`own` or read by the elements. -/
def Takes (own : List String) (read : Reading α) (f : α → List String) : Prop :=
  ∀ s, Taken own s f (read s)

theorem Takes.mono (h : Takes own read f) (hsub : own ⊆ own') : Takes own' read f :=
  fun s => (h s).of_suffix List.suffix_rfl fun _ hroot => .inl (hsub hroot)

theorem Takes.weaken (h : Takes [] read f) : Takes own read f :=
  h.mono (List.nil_subset _)

theorem takes_pure {a : α} (h : f a ⊆ own) : Takes own (pure a) f :=
  fun _ => ⟨List.suffix_rfl, fun _ hroot => .inl (h hroot)⟩

theorem takes_throw (e : Misreading) : Takes own (throw e) f :=
  fun _ => List.suffix_rfl

theorem takes_ofExcept {result : Except Misreading α} (h : ∀ a, result = .ok a → f a ⊆ own) :
    Takes own (ofExcept result) f := by
  cases result with
  | ok a => exact takes_pure (h a rfl)
  | error e => exact takes_throw e

/-- What is read `next` may have variables of what has been found so far. -/
theorem Takes.bind {next : α → Reading β} {g : β → List String} (h : Takes own read f)
    (hnext : ∀ a, Takes (own ++ f a) (next a) g) : Takes own (read >>= next) g := by
  intro s
  have hs := h s
  show Taken own s g (EStateM.bind read next s)
  unfold EStateM.bind
  revert hs
  cases read s with
  | error e rest => exact id
  | ok a rest =>
    rintro ⟨hrest, hall⟩
    exact (hnext a rest).of_suffix hrest fun root hroot =>
      (List.mem_append.1 hroot).elim .inl (hall root)

/-- Elements that were taken before something went wrong stay taken. -/
theorem Takes.tryCatch {handle : Misreading → Reading α} (h : Takes own read f)
    (hhandle : ∀ e, Takes own (handle e) f) : Takes own (tryCatch read handle) f := by
  intro s
  have hs := h s
  show Taken own s f (EStateM.tryCatch read handle s)
  unfold EStateM.tryCatch
  revert hs
  cases read s with
  | ok a rest => exact id
  | error e rest => exact fun hrest => (hhandle e rest).of_suffix hrest fun _ => .inl

theorem takes_nextElement (block : String) :
    Takes own (nextElement block) fun e => e.element.reads := by
  intro s
  cases s with
  | nil => exact List.suffix_rfl
  | cons e rest =>
    exact ⟨List.suffix_cons e rest, fun root hroot => .inr ⟨e, List.mem_cons_self, hroot⟩⟩

theorem takes_expectNothing (tag : String) (words : List SpelledWord) :
    Takes own (expectNothing tag words) fun _ => [] := by
  unfold expectNothing
  split
  · exact takes_pure (List.nil_subset _)
  · exact takes_throw _

theorem eq_some_of_formed {tag : String} {o : Option α} {a : α} (h : formed tag o = .ok a) :
    o = some a := by
  cases o with
  | none => cases h
  | some b =>
    cases h
    rfl

end Reading

/-- The variables that the tag at the end of a body reads. -/
def BodyEnd.reads : BodyEnd → List String
  | .ended => []
  | .tag name words => tagReads name words

theorem reads_of_assignment {words : List SpelledWord} {node : Node}
    (h : assignment words = .ok node) : node.reads = [] := by
  unfold assignment at h
  split at h
  · split at h
    · next name written _ _ _ =>
      cases hchain : written.resolve with
      | error e =>
        rw [hchain] at h
        cases h
      | ok chain =>
        rw [hchain] at h
        cases h
        rfl
    · cases h
  · cases h

theorem reads_of_cycle? {words : List SpelledWord} {node : Node} (h : cycle? words = some node) :
    node.reads = [] := by
  have hnamed {name : String} {words : List SpelledWord}
      (h : (cycleValues? words).map (namedCycle name) = some node) : node.reads = [] := by
    obtain ⟨values, -, rfl⟩ := Option.map_eq_some_iff.1 h
    rfl
  unfold cycle? at h
  split at h
  · cases h
  · exact hnamed h
  · split at h
    · obtain ⟨name, -, h⟩ := Option.bind_eq_some_iff.1 h
      exact hnamed h
    · exact hnamed h

theorem reads_of_include? {words : List SpelledWord} {node : Node}
    (h : include? words = some node) : node.reads = [] := by
  unfold include? at h
  split at h
  · cases h
  · obtain ⟨-, h⟩ := Option.ite_none_right_eq_some.1 h
    obtain ⟨e, -, rfl⟩ := Option.map_eq_some_iff.1 h
    rfl

theorem reads_of_render? {words : List SpelledWord} {node : Node} (h : render? words = some node) :
    node.reads = [] := by
  -- Both forms of the tag end in a check on the words that are left over.
  have hsome {p : Prop} [Decidable p] {e : Expression} {repeated : Option LoopSource}
      (h : (if p then some (Node.partialTemplate e repeated) else none) = some node) :
      node.reads = [] := by
    obtain ⟨-, heq⟩ := Option.ite_none_right_eq_some.1 h
    cases heq
    rfl
  unfold render? at h
  split at h
  · cases h
  · obtain ⟨e, -, h⟩ := Option.bind_eq_some_iff.1 h
    split at h
    · dsimp only at h
      split at h
      · exact hsome h
      · split at h
        · obtain ⟨-, h⟩ := Option.ite_none_right_eq_some.1 h
          obtain ⟨source, -, rfl⟩ := Option.map_eq_some_iff.1 h
          rfl
        · exact hsome h
    · exact hsome h

/-- No tag without a block reads variables in a place that counts. -/
theorem reads_of_simpleTag? {name : String} {words : List SpelledWord} {node : Node}
    (h : simpleTag? name words = some (.ok node)) : node.reads = [] := by
  -- All but the assignment are formed from an optional node, so it is enough to look at that.
  have hformed {tag : String} {o : Option Node} (ho : ∀ node, o = some node → node.reads = [])
      (hnode : some (formed tag o) = some (.ok node)) : node.reads = [] :=
    ho node (eq_some_of_formed (Option.some.inj hnode))
  unfold simpleTag? at h
  split at h
  · exact reads_of_assignment (Option.some.inj h)
  · refine hformed (fun node hnode => ?_) h
    obtain ⟨name, -, rfl⟩ := Option.map_eq_some_iff.1 hnode
    rfl
  · refine hformed (fun node hnode => ?_) h
    obtain ⟨name, -, rfl⟩ := Option.map_eq_some_iff.1 hnode
    rfl
  · exact hformed (fun node => reads_of_cycle?) h
  · refine hformed (fun node hnode => ?_) h
    obtain ⟨-, heq⟩ := Option.ite_none_right_eq_some.1 hnode
    cases heq
    rfl
  · refine hformed (fun node hnode => ?_) h
    obtain ⟨-, heq⟩ := Option.ite_none_right_eq_some.1 hnode
    cases heq
    rfl
  · exact hformed (fun node => reads_of_include?) h
  · exact hformed (fun node => reads_of_render?) h
  · cases h

/-- Finding the filters of a chain leaves its expression as it is. -/
theorem entry_of_resolve {written : WrittenChain} {chain : Chain}
    (h : written.resolve = .ok chain) : chain.entry = written.entry := by
  unfold WrittenChain.resolve at h
  cases hfilters : written.filters.mapM WrittenFilter.resolve with
  | error e =>
    rw [hfilters] at h
    cases h
  | ok uses =>
    rw [hfilters] at h
    cases h
    rfl

/-- Each of the readers takes elements from the front when it has `fuel`, and the variables of what
it finds are read by them. -/
structure ReadersTake (host : HostTags) (fuel : Nat) : Prop where
  /-- A tag and its block. -/
  tag (name : String) (words : List SpelledWord) :
    Takes (tagReads name words) (readTag host fuel name words) Node.reads
  /-- A block. -/
  block (name : String) (words : List SpelledWord) :
    Takes (tagReads name words) (readBlock host fuel name words) Node.reads
  /-- A conditional block behind the tag that states its condition. -/
  conditional (name : String) (words : List SpelledWord) :
    Takes (((condition? words).map Condition.roots).getD []) (readIf host fuel name words)
      Node.reads
  /-- The last part of a block. -/
  otherwise (block : String) (stop : BodyEnd) :
    Takes [] (readElse host fuel block stop) nodesRead
  /-- The arms of a selection. -/
  arms (stop : BodyEnd) :
    Takes stop.reads (readArms host fuel stop) fun found => armsRead found.1 ++ nodesRead found.2
  /-- The nodes up to the end of a block, and what ends it. -/
  body (block : String) (stops : List String) :
    Takes [] (readBody host fuel block stops) fun found => nodesRead found.1 ++ found.2.reads
  /-- A raw block. -/
  raw : Takes [] (readRaw fuel) fun _ => []
  /-- A comment. -/
  comment : Takes [] (readComment host fuel) fun _ => []

/-- The nodes that `host` gives read nothing in a place that counts. -/
def HostTags.ReadNothing (host : HostTags) : Prop :=
  ∀ name read words node, host name = some read → read words = .ok node → node.reads = []

section Readers

variable {host : HostTags} {fuel : Nat}

theorem takes_readTag (hhost : host.ReadNothing) (ih : ReadersTake host fuel) (name : String)
    (words : List SpelledWord) :
    Takes (tagReads name words) (readTag host (fuel + 1) name words) Node.reads := by
  unfold readTag
  split
  · next read hread =>
    refine takes_ofExcept fun node hnode => ?_
    rw [hhost name read words node hread hnode]
    exact List.nil_subset _
  · split
    · next result hresult =>
      refine takes_ofExcept fun node hnode => ?_
      rw [reads_of_simpleTag? (hnode ▸ hresult)]
      exact List.nil_subset _
    · exact ih.block name words

theorem takes_readIf (ih : ReadersTake host fuel) (name : String) (words : List SpelledWord) :
    Takes (((condition? words).map Condition.roots).getD []) (readIf host (fuel + 1) name words)
      Node.reads := by
  unfold readIf
  refine (takes_ofExcept (f := Condition.roots) fun condition hcondition => ?_).bind
    fun condition => ((ih.body _ _).weaken.bind fun found => ?_)
  · rw [eq_some_of_formed hcondition]
    exact List.Subset.refl _
  · dsimp only
    split
    · next hstop =>
      refine ((ih.conditional _ _).mono fun root hroot => ?_).bind fun next => takes_pure ?_
      · simp [hstop, BodyEnd.reads, tagReads, hroot]
      · intro root
        simp only [Node.reads, nodesRead, List.mem_append, List.not_mem_nil]
        grind
    · refine (ih.otherwise _ _).weaken.bind fun otherwise => takes_pure ?_
      intro root
      simp only [Node.reads, List.mem_append]
      grind

theorem takes_readElse (ih : ReadersTake host fuel) (block : String) (stop : BodyEnd) :
    Takes [] (readElse host (fuel + 1) block stop) nodesRead := by
  cases stop with
  | ended => exact takes_pure (List.nil_subset _)
  | tag name words =>
    have hbody : Takes [] (readBody host fuel block [] >>= fun found => pure found.1) nodesRead :=
      (ih.body _ _).bind fun _ => takes_pure (by simp)
    unfold readElse
    dsimp only
    split
    · exact (takes_expectNothing _ _).bind fun _ => hbody
    · exact hbody

theorem takes_readArms (ih : ReadersTake host fuel) (stop : BodyEnd) :
    Takes stop.reads (readArms host (fuel + 1) stop)
      fun found => armsRead found.1 ++ nodesRead found.2 := by
  unfold readArms
  split
  case h_1 => exact takes_throw _
  case h_2 => exact takes_pure (List.nil_subset _)
  case h_3 words heq =>
    cases heq
    refine (takes_ofExcept (f := rootsOfAll) fun values hvalues => ?_).bind fun values =>
      (ih.body _ _).weaken.bind fun found =>
        ((ih.arms found.2).mono fun root hroot => by simp [hroot]).bind fun _ =>
          takes_pure ?_
    · simp [BodyEnd.reads, tagReads, eq_some_of_formed hvalues]
    · intro root
      simp only [armsRead, List.mem_append]
      grind
  case h_4 heq =>
    cases heq
    exact (ih.otherwise _ _).weaken.bind fun otherwise => takes_pure (by simp [armsRead])

theorem takes_readBody (ih : ReadersTake host fuel) (block : String) (stops : List String) :
    Takes [] (readBody host (fuel + 1) block stops)
      fun found => nodesRead found.1 ++ found.2.reads := by
  unfold readBody
  refine (takes_nextElement block).bind fun e => ?_
  -- By the next element: a tag that stops the block or starts a node, an output, a text, or
  -- nothing.
  split
  · next name words helement =>
    rw [helement]
    split
    · exact (takes_expectNothing _ _).bind fun _ => takes_pure (List.nil_subset _)
    · split
      · exact takes_pure (by simp [nodesRead, BodyEnd.reads, Element.reads])
      · refine ((ih.tag name words).mono (by simp [Element.reads])).bind fun node =>
          (ih.body block stops).weaken.bind fun found => takes_pure ?_
        intro root
        simp only [nodesRead, List.mem_append]
        grind
  · next written helement =>
    rw [helement]
    refine (takes_ofExcept (f := fun chain => headRoots chain.entry) fun chain hchain => ?_).bind
      fun chain => (ih.body block stops).weaken.bind fun found => takes_pure ?_
    · simp [Element.reads, entry_of_resolve hchain]
    · intro root
      simp only [nodesRead, Node.reads, List.mem_append]
      grind
  · exact (ih.body block stops).weaken.bind fun found =>
      takes_pure (by simp [nodesRead, Node.reads])
  · exact takes_throw _

theorem takes_readComment (ih : ReadersTake host fuel) :
    Takes [] (readComment host (fuel + 1)) fun _ => [] := by
  have hcomment {own : List String} : Takes own (readComment host fuel) fun _ => [] :=
    ih.comment.weaken
  unfold readComment
  refine (takes_nextElement _).bind fun e => ?_
  split
  · exact takes_expectNothing _ _
  · next words helement =>
    exact ((ih.tag _ words).mono (by simp [helement, Element.reads])).bind fun _ => hcomment
  · next name words _ _ helement =>
    refine Takes.bind (f := fun _ => []) (.tryCatch ?_ fun _ => takes_pure (List.nil_subset _))
      fun _ => hcomment
    exact ((ih.tag name words).mono (by simp [helement, Element.reads])).bind fun _ =>
      takes_pure (List.nil_subset _)
  · exact hcomment

theorem takes_readRaw (h : Takes [] (readRaw fuel) fun _ => []) :
    Takes [] (readRaw (fuel + 1)) fun _ => [] := by
  unfold readRaw
  refine (takes_nextElement _).bind fun e => ?_
  split
  · exact takes_pure (List.nil_subset _)
  · exact h.weaken.bind fun _ => takes_pure (List.nil_subset _)

theorem takes_readBlock (ih : ReadersTake host fuel) (name : String) (words : List SpelledWord) :
    Takes (tagReads name words) (readBlock host (fuel + 1) name words) Node.reads := by
  unfold readBlock
  -- One case for each block, in the order of the reader: what its tag reads comes first, then its
  -- bodies.
  split
  · exact ih.conditional _ words
  · refine (takes_ofExcept (f := Condition.roots) fun condition hcondition => ?_).bind
      fun condition => (ih.body _ _).weaken.bind fun found =>
        (ih.otherwise _ _).weaken.bind fun otherwise => takes_pure ?_
    · simp [tagReads, eq_some_of_formed hcondition]
    · intro root
      simp only [Node.reads, List.mem_append]
      grind
  · split
    · next subject =>
      refine (takes_ofExcept (f := Expression.roots) fun e he => ?_).bind
        fun e => (ih.body _ _).weaken.bind fun found =>
          ((ih.arms found.2).mono fun root hroot => by simp [hroot]).bind fun _ =>
            takes_pure ?_
      · simp [tagReads, eq_some_of_formed he]
      · intro root
        simp only [Node.reads, List.mem_append]
        grind
    · exact takes_throw _
  · refine (takes_ofExcept (f := fun head => head.source.roots) fun head hhead => ?_).bind
      fun head => (ih.body _ _).weaken.bind fun found =>
        (ih.otherwise _ _).weaken.bind fun otherwise => takes_pure ?_
    · simp [tagReads, eq_some_of_formed hhead]
    · intro root
      simp only [Node.reads, List.mem_append]
      grind
  · refine (takes_ofExcept (f := fun _ => []) fun _ _ => List.nil_subset _).bind fun head =>
      (ih.body _ _).weaken.bind fun found => takes_pure ?_
    simp [Node.reads]
  · refine (takes_ofExcept (f := fun _ => []) fun _ _ => List.nil_subset _).bind fun target =>
      (ih.body _ _).weaken.bind fun found => takes_pure ?_
    simp [Node.reads]
  · refine (takes_expectNothing _ _).bind fun _ =>
      (ih.body _ _).weaken.bind fun found => takes_pure ?_
    simp [Node.reads]
  · exact (takes_expectNothing _ _).bind fun _ => ih.raw.weaken.bind fun _ =>
      takes_pure (List.nil_subset _)
  · exact (takes_expectNothing _ _).bind fun _ => ih.comment.weaken.bind fun _ =>
      takes_pure (List.nil_subset _)
  · exact takes_throw _

theorem readersTake (hhost : host.ReadNothing) (fuel : Nat) : ReadersTake host fuel := by
  -- The readers call each other with less fuel, so the statement is about all eight at once.
  induction fuel with
  | zero =>
    refine ⟨fun _ _ => ?_, fun _ _ => ?_, fun _ _ => ?_, fun _ stop => ?_, fun stop => ?_,
      fun _ _ => ?_, ?_, ?_⟩
    · unfold readTag
      exact takes_throw _
    · unfold readBlock
      exact takes_throw _
    · unfold readIf
      exact takes_throw _
    · unfold readElse
      exact takes_throw _
    · unfold readArms
      exact takes_throw _
    · unfold readBody
      exact takes_throw _
    · unfold readRaw
      exact takes_throw _
    · unfold readComment
      exact takes_throw _
  | succ fuel ih =>
    exact ⟨takes_readTag hhost ih, takes_readBlock ih, takes_readIf ih, takes_readElse ih,
      takes_readArms ih, takes_readBody ih, takes_readRaw ih.raw, takes_readComment ih⟩

/-- The next element `e` starts a node, and further nodes follow it. -/
theorem readAll_cons (host : HostTags) (fuel : Nat) (e : SpelledElement)
    (rest : List SpelledElement) :
    readAll host (fuel + 1) (e :: rest) =
      (do
        let node : Node ← match e.element with
          | .tag name words => readTag host (6 * rest.length + 6) name words
          | .output written => Node.output <$> ofExcept written.resolve
          | .text => pure (.text (String.ofList e.spelling))
          | .invalid => throw .invalidMarkup
        let more ← readAll host fuel
        return node :: more : Reading (List Node)) rest := by
  conv => lhs; unfold readAll
  rfl

theorem takes_readAll (hhost : host.ReadNothing) (fuel : Nat) :
    Takes [] (readAll host fuel) nodesRead := by
  induction fuel with
  | zero => exact takes_pure (List.nil_subset _)
  | succ fuel ih =>
    intro s
    cases s with
    | nil => exact ⟨List.suffix_rfl, nofun⟩
    | cons e rest =>
      have hmore (node : Node) : Takes (e.element.reads ++ node.reads) (do
          let more ← readAll host fuel
          return node :: more) nodesRead :=
        ih.weaken.bind fun more => takes_pure fun root => by
          simp only [nodesRead, List.mem_append]
          grind
      rw [readAll_cons]
      -- What is found behind the next element is found in it or in what follows it.
      refine Taken.of_suffix (?_ : Taken e.element.reads rest _ _) (List.suffix_cons e rest)
        fun root hroot => .inr ⟨e, List.mem_cons_self, hroot⟩
      refine (?_ : Takes e.element.reads _ nodesRead) rest
      dsimp only
      split
      · next name words helement =>
        exact (((readersTake hhost _).tag name words).mono (by simp [helement, Element.reads])).bind
          hmore
      · next written helement =>
        refine Takes.bind (f := Node.reads) ?_ hmore
        cases hchain : written.resolve with
        | error fault => exact takes_throw fault
        | ok chain =>
          show Takes _ (pure (Node.output chain)) _
          exact takes_pure (by simp [Node.reads, helement, Element.reads, entry_of_resolve hchain])
      · exact (takes_pure (f := Node.reads) (List.nil_subset _)).bind hmore
      · exact (takes_throw (f := Node.reads) _).bind hmore

/-- A variable `root` that the nodes of a template read is read by its elements. -/
theorem exists_reads_of_readTemplate (hhost : host.ReadNothing) {source : String}
    {nodes : List Node} (h : readTemplate host source = .ok nodes) {root : String}
    (hroot : root ∈ nodesRead nodes) : ∃ e ∈ elements source.toList, root ∈ e.element.reads := by
  have htakes := takes_readAll hhost (elements source.toList).length (elements source.toList)
  unfold readTemplate at h
  simp only [EStateM.run] at h
  revert htakes
  split at h
  · next nodes' rest hread =>
    cases h
    rw [hread]
    exact fun ⟨_, hall⟩ => (hall root hroot).resolve_left List.not_mem_nil
  · cases h

end Readers

end Promptbook.Template
