/-
  Montage.Proofs.Filter.Wiring

  How the nodes of a graph are connected.  Numbered labels can be told apart: the stem and the
  number of a label can be read back, as long as the stem does not end in a digit itself.  The
  streams of engine inputs end in a letter, so no numbered label is one of them.  Hence the labels
  that are taken from one graph are distinct, whatever is done to the graph in between.

  In a connected graph every label is written by one node and read by one later node, except
  for the final labels, which nobody reads.  A graph that is built by `add` and `addFresh`
  stays wired: the labels written so far are those read so far together with the loose ones,
  which still have to be read.
-/
import Mathlib.Data.List.Basic
import Mathlib.Data.List.Nodup
import Montage.Filter.Graph

namespace Montage.Filter

/-! ## Numbers at the end of a text -/

/-- Whether the last character of a text is a decimal digit. -/
def endsInDigit (text : String) : Bool :=
  text.toList.getLast?.any Char.isDigit

theorem isDigit_of_mem_repr {n : Nat} {c : Char} (hc : c ∈ n.repr.toList) : c.isDigit = true := by
  rw [Nat.toList_repr] at hc
  exact Nat.isDigit_of_mem_toDigits (by decide) (by decide) hc

theorem repr_injective {n m : Nat} (h : n.repr = m.repr) : n = m := by
  have hdigits : Nat.toDigits 10 n = Nat.toDigits 10 m := by
    rw [← Nat.toList_repr, ← Nat.toList_repr, h]
  have hread := congrArg (fun digits => Nat.ofDigitChars 10 digits 0) hdigits
  simpa using hread

theorem endsInDigit_append_repr (stem : String) (n : Nat) :
    endsInDigit (stem ++ n.repr) = true := by
  have hne : n.repr.toList ≠ [] := by
    rw [Nat.toList_repr]
    exact Nat.toDigits_ne_nil
  have hlast : (stem ++ n.repr).toList.getLast? = some (n.repr.toList.getLast hne) := by
    rw [String.toList_append, List.getLast?_append_of_ne_nil _ hne,
      List.getLast?_eq_some_getLast hne]
  rw [endsInDigit, hlast]
  exact isDigit_of_mem_repr (List.getLast_mem hne)

/-- The digits at the end of a numbered text are those of its number. -/
theorem takeWhile_reverse_append_repr {stem : String} (hstem : endsInDigit stem = false) (n : Nat) :
    (stem ++ n.repr).toList.reverse.takeWhile Char.isDigit = n.repr.toList.reverse := by
  have hdigits : ∀ c ∈ n.repr.toList.reverse, c.isDigit = true := by
    intro c hc
    exact isDigit_of_mem_repr (List.mem_reverse.mp hc)
  have hrest : stem.toList.reverse.takeWhile Char.isDigit = [] := by
    rw [endsInDigit, ← List.head?_reverse] at hstem
    cases hs : stem.toList.reverse with
    | nil => rfl
    | cons c rest =>
        rw [hs] at hstem
        rw [List.takeWhile_cons_of_neg]
        simpa using hstem
  rw [String.toList_append, List.reverse_append, List.takeWhile_append_of_pos hdigits, hrest,
    List.append_nil]

/-- Numbered texts are equal only if their stems and their numbers are. -/
theorem append_repr_inj {s t : String} (hs : endsInDigit s = false) (ht : endsInDigit t = false)
    {n m : Nat} (h : s ++ n.repr = t ++ m.repr) : s = t ∧ n = m := by
  have hnumber : n.repr = m.repr := by
    have hreverse := takeWhile_reverse_append_repr hs n
    rw [h, takeWhile_reverse_append_repr ht m] at hreverse
    exact String.toList_injective (List.reverse_injective hreverse.symm)
  have hstem : s = t := by
    rw [hnumber] at h
    have hlist := congrArg String.toList h
    rw [String.toList_append, String.toList_append] at hlist
    exact String.toList_injective (List.append_cancel_right hlist)
  exact ⟨hstem, repr_injective hnumber⟩

/-! ## Streams of engine inputs -/

/-- A label that stands for the picture or the sound of an engine input. -/
def IsPad (label : String) : Prop :=
  ∃ input : Nat, label = input.repr ++ ":v" ∨ label = input.repr ++ ":a"

theorem IsPad.endsInDigit_eq_false {label : String} (h : IsPad label) :
    endsInDigit label = false := by
  obtain ⟨input, rfl | rfl⟩ := h
  · simp [endsInDigit, String.toList_append]
  · simp [endsInDigit, String.toList_append]

theorem not_isPad_append_repr (stem : String) (n : Nat) : ¬ IsPad (stem ++ n.repr) := by
  intro h
  have hdigit := endsInDigit_append_repr stem n
  rw [h.endsInDigit_eq_false] at hdigit
  exact Bool.false_ne_true hdigit

/-! ## Labels of one graph -/

/-- What is done to a graph: a label is taken from it, or a node is added. -/
inductive Act where
  | take (stem : String)
  | add (node : Node)

/-- The stem of the label that an act takes. -/
def Act.stem? : Act → Option String
  | .take stem => some stem
  | .add _ => none

namespace Graph

/-- The labels that acts take from a graph, in order. -/
def taken (graph : Graph) : List Act → List String
  | [] => []
  | .take stem :: rest => (graph.fresh stem).1 :: (graph.fresh stem).2.taken rest
  | .add node :: rest => (graph.add node).taken rest

/-- The labels of a graph are numbered from its counter on, whatever nodes are added. -/
theorem taken_eq (graph : Graph) (acts : List Act) :
    graph.taken acts =
      ((acts.filterMap Act.stem?).zipIdx graph.counter).map fun (stem, number) =>
        stem ++ number.repr := by
  induction acts generalizing graph with
  | nil => rfl
  | cons act rest ih =>
      cases act with
      | take stem =>
          rw [taken, ih, counter_fresh]
          rfl
      | add node =>
          rw [taken, ih, counter_add]
          rfl

/-- The labels that are taken from a graph are distinct, and none of them stands for an engine
    input, if no stem ends in a digit. -/
theorem taken_distinct (graph : Graph) {acts : List Act}
    (hstems : ∀ stem, .take stem ∈ acts → endsInDigit stem = false) :
    (graph.taken acts).Nodup ∧ ∀ label ∈ graph.taken acts, ¬ IsPad label := by
  rw [graph.taken_eq]
  have hstem : ∀ numbered ∈ (acts.filterMap Act.stem?).zipIdx graph.counter,
      endsInDigit numbered.1 = false := by
    rintro ⟨stem, number⟩ hmem
    obtain ⟨act, hact, heq⟩ := List.mem_filterMap.mp (List.fst_mem_of_mem_zipIdx hmem)
    cases act with
    | take taken =>
        obtain rfl : taken = stem := Option.some.inj heq
        exact hstems taken hact
    | add node => cases heq
  constructor
  · refine List.Nodup.map_on (fun first hfirst second hsecond heq => ?_) ?_
    -- a stem without a digit at its end can be told from the number
    · obtain ⟨hsame, hnumber⟩ := append_repr_inj (hstem first hfirst) (hstem second hsecond) heq
      exact Prod.ext hsame hnumber
    · refine List.Nodup.of_map Prod.snd ?_
      rw [List.zipIdx_map_snd]
      exact List.nodup_range'
  · intro label hlabel
    obtain ⟨numbered, -, rfl⟩ := List.mem_map.mp hlabel
    exact not_isPad_append_repr numbered.1 numbered.2

/-- Two labels with one stem, and one with another between them, while a node is added. -/
def sampleActs : List Act :=
  [.take "v", .add ⟨["0:v"], [], ["v0"]⟩, .take "a", .take "v"]

theorem taken_distinct_sampleActs :
    (∀ stem, .take stem ∈ sampleActs → endsInDigit stem = false) ∧
      (({} : Graph).taken sampleActs).Nodup ∧
      ∀ label ∈ ({} : Graph).taken sampleActs, ¬ IsPad label := by
  have hstems : ∀ stem, .take stem ∈ sampleActs → endsInDigit stem = false := by
    intro stem hmem
    simp only [sampleActs, List.mem_cons, Act.take.injEq, reduceCtorEq, List.not_mem_nil,
      or_false, false_or] at hmem
    rcases hmem with rfl | rfl | rfl <;> decide
  exact ⟨hstems, taken_distinct {} hstems⟩

/-- A stem that ends in a digit can be confused with a higher number. -/
example : ¬ (({} : Graph).taken
    (.take "v1" :: List.replicate 9 (.take "a") ++ [.take "v"])).Nodup := by
  decide +kernel

end Graph

/-! ## Labels of nodes -/

/-- The labels that nodes write, in order. -/
def written (nodes : List Node) : List String :=
  nodes.flatMap Node.outputs

/-- The labels that nodes read, in order. -/
def consumed (nodes : List Node) : List String :=
  nodes.flatMap Node.inputs

@[simp] theorem written_append (nodes rest : List Node) :
    written (nodes ++ rest) = written nodes ++ written rest := List.flatMap_append

@[simp] theorem consumed_append (nodes rest : List Node) :
    consumed (nodes ++ rest) = consumed nodes ++ consumed rest := List.flatMap_append

@[simp] theorem written_singleton (node : Node) : written [node] = node.outputs := by
  simp [written]

@[simp] theorem consumed_singleton (node : Node) : consumed [node] = node.inputs := by
  simp [consumed]

/-! ## Connected graphs -/

/-- Every node reads only streams of engine inputs and labels of nodes before it. -/
def ReadsEarlier (nodes : List Node) : Prop :=
  ∀ before node after, nodes = before ++ node :: after →
    ∀ label ∈ node.inputs, IsPad label ∨ label ∈ written before

/-- A list of nodes in which every label is written once, read later and read once, but
    for the final labels, which are written and not read. -/
structure Connected (nodes : List Node) (final : List String) : Prop where
  written_once : (written nodes).Nodup
  written_not_pad : ∀ label ∈ written nodes, ¬ IsPad label
  reads_earlier : ReadsEarlier nodes
  read_once : ∀ label ∈ written nodes, label ∉ final → (consumed nodes).count label = 1
  final_written : ∀ label ∈ final, label ∈ written nodes
  final_unread : ∀ label ∈ final, label ∉ consumed nodes

theorem ReadsEarlier.append_singleton {nodes : List Node} (h : ReadsEarlier nodes) {node : Node}
    (hnode : ∀ label ∈ node.inputs, IsPad label ∨ label ∈ written nodes) :
    ReadsEarlier (nodes ++ [node]) := by
  intro before other after hsplit label hlabel
  rcases List.eq_nil_or_concat after with rfl | ⟨rest, last, rfl⟩
  -- the new node itself, or one of the old ones
  · obtain ⟨rfl, hother⟩ := List.append_inj' hsplit rfl
    have : node = other := by simpa using hother
    exact hnode label (this ▸ hlabel)
  · have hsplit' : nodes ++ [node] = (before ++ other :: rest) ++ [last] := by
      simpa using hsplit
    obtain ⟨hnodes, -⟩ := List.append_inj' hsplit' rfl
    exact h before other rest hnodes label hlabel

/-! ## Graphs under construction -/

/-- The labels with a stem and `count` numbers from `first` on. -/
def labels (stem : String) (first count : Nat) : List String :=
  (List.range' first count).map fun number => stem ++ number.repr

/-- A graph whose labels were written once and numbered below its counter, and in which
    the `loose` labels are those that were not read yet. -/
structure Wired (graph : Graph) (loose : List String) : Prop where
  numbered : ∀ stem number, endsInDigit stem = false →
    stem ++ number.repr ∈ written graph.nodes → number < graph.counter
  nodup : (written graph.nodes).Nodup
  not_pad : ∀ label ∈ written graph.nodes, ¬ IsPad label
  earlier : ReadsEarlier graph.nodes
  balance : ∃ pads links, (∀ pad ∈ pads, IsPad pad) ∧
    (consumed graph.nodes).Perm (pads ++ links) ∧ (written graph.nodes).Perm (links ++ loose)

namespace Wired

variable {graph : Graph} {loose rest : List String}

theorem perm (h : Wired graph loose) (hperm : loose.Perm rest) : Wired graph rest := by
  obtain ⟨pads, links, hpads, hconsumed, hwritten⟩ := h.balance
  exact { h with
    balance := ⟨pads, links, hpads, hconsumed, hwritten.trans (hperm.append_left links)⟩ }

theorem mem_written (h : Wired graph loose) {label : String} (hl : label ∈ loose) :
    label ∈ written graph.nodes := by
  obtain ⟨pads, links, -, -, hwritten⟩ := h.balance
  exact hwritten.mem_iff.mpr (List.mem_append_right links hl)

/-- Labels numbered from the counter on are new. -/
theorem not_mem_of_mem_labels (h : Wired graph loose) {stem : String}
    (hstem : endsInDigit stem = false) {count : Nat} {label : String}
    (hl : label ∈ labels stem graph.counter count) : label ∉ written graph.nodes := by
  intro hmem
  obtain ⟨number, hrange, rfl⟩ := List.mem_map.mp hl
  have hlow := (List.mem_range'_1.mp hrange).1
  have hhigh := h.numbered stem number hstem hmem
  omega

/-- A node that reads streams of engine inputs and some of the loose labels, and writes
    labels numbered from the counter on, leaves the graph wired. -/
theorem extend (h : Wired graph loose) {stem : String} (hstem : endsInDigit stem = false)
    (count : Nat) (pads links : List String) (chain : List Filter)
    (hpads : ∀ pad ∈ pads, IsPad pad) (hloose : loose.Perm (links ++ rest)) :
    Wired ⟨graph.nodes ++ [⟨pads ++ links, chain, labels stem graph.counter count⟩],
      graph.counter + count⟩ (labels stem graph.counter count ++ rest) where
  numbered := by
    intro other number hother hmem
    rw [written_append, written_singleton, List.mem_append] at hmem
    rcases hmem with hold | hnew
    · exact Nat.lt_add_right count (h.numbered other number hother hold)
    -- a stem without a digit at its end can be told from the number
    · obtain ⟨same, hrange, heq⟩ := List.mem_map.mp hnew
      obtain ⟨-, rfl⟩ := append_repr_inj hstem hother heq
      exact (List.mem_range'_1.mp hrange).2
  nodup := by
    rw [written_append, written_singleton]
    refine h.nodup.append ?_ fun label hold hnew => h.not_mem_of_mem_labels hstem hnew hold
    refine List.Nodup.map (fun n m heq => ?_) List.nodup_range'
    exact (append_repr_inj hstem hstem heq).2
  not_pad := by
    intro label hmem
    rw [written_append, written_singleton, List.mem_append] at hmem
    rcases hmem with hold | hnew
    · exact h.not_pad label hold
    · obtain ⟨number, -, rfl⟩ := List.mem_map.mp hnew
      exact not_isPad_append_repr stem number
  earlier := by
    refine h.earlier.append_singleton fun label hlabel => ?_
    rcases List.mem_append.mp hlabel with hpad | hlink
    · exact .inl (hpads label hpad)
    · exact .inr (h.mem_written (hloose.mem_iff.mpr (List.mem_append_left rest hlink)))
  balance := by
    -- the links move from the loose labels to those that were read
    obtain ⟨oldPads, oldLinks, hold, hconsumed, hwritten⟩ := h.balance
    refine ⟨oldPads ++ pads, oldLinks ++ links, ?_, ?_, ?_⟩
    · intro pad hpad
      exact (List.mem_append.mp hpad).elim (hold pad) (hpads pad)
    · refine List.perm_iff_count.mpr fun label => ?_
      have h₁ := hconsumed.count_eq label
      simp only [consumed_append, consumed_singleton, List.count_append] at h₁ ⊢
      omega
    · refine List.perm_iff_count.mpr fun label => ?_
      have h₁ := hwritten.count_eq label
      have h₂ := hloose.count_eq label
      simp only [written_append, written_singleton, List.count_append] at h₁ h₂ ⊢
      omega

/-- A node that takes one stream of an engine input. -/
theorem addFresh_pad (h : Wired graph loose) {stem : String} (hstem : endsInDigit stem = false)
    {pad : String} (hpad : IsPad pad) (chain : List Filter) :
    Wired (graph.addFresh [pad] chain stem).2 ((graph.addFresh [pad] chain stem).1 :: loose) :=
  h.extend hstem 1 [pad] [] chain (by simpa using hpad) (.refl _)

/-- A node that reads some of the loose labels. -/
theorem addFresh_links (h : Wired graph loose) {stem : String} (hstem : endsInDigit stem = false)
    (links rest : List String) (hloose : loose.Perm (links ++ rest)) (chain : List Filter) :
    Wired (graph.addFresh links chain stem).2 ((graph.addFresh links chain stem).1 :: rest) :=
  h.extend hstem 1 [] links chain (by simp) hloose

/-- The first node of a graph reads one stream of an engine input. -/
theorem first {pad label : String} (hpad : IsPad pad) (hlabel : endsInDigit label = false)
    (hnot : ¬ IsPad label) (chain : List Filter) :
    Wired (({} : Graph).add ⟨[pad], chain, [label]⟩) [label] where
  numbered := by
    intro stem number _ hmem
    have heq : stem ++ number.repr = label := by simpa using hmem
    rw [← heq, endsInDigit_append_repr] at hlabel
    exact absurd hlabel (by decide)
  nodup := by simp
  not_pad := by simpa using hnot
  earlier := by
    have hnil : ReadsEarlier [] := by
      intro before node after hsplit
      simp at hsplit
    exact hnil.append_singleton (by simpa using Or.inl hpad)
  balance := ⟨[pad], [], by simpa using hpad, by simp, by simp⟩

/-- A wired graph is connected, with the loose labels as the final ones. -/
theorem connected (h : Wired graph loose) : Connected graph.nodes loose := by
  obtain ⟨pads, links, hpads, hconsumed, hwritten⟩ := h.balance
  -- every label is either read once or loose
  have hcount : ∀ label ∈ written graph.nodes,
      (consumed graph.nodes).count label + loose.count label = 1 := by
    intro label hmem
    have hone := List.count_eq_one_of_mem h.nodup hmem
    have hnone : pads.count label = 0 :=
      List.count_eq_zero.mpr fun hpad => h.not_pad label hmem (hpads label hpad)
    rw [hwritten.count_eq, List.count_append] at hone
    rw [hconsumed.count_eq, List.count_append, hnone]
    omega
  refine ⟨h.nodup, h.not_pad, h.earlier, ?_, fun label => h.mem_written, ?_⟩
  · intro label hmem hfinal
    have hsum := hcount label hmem
    rwa [List.count_eq_zero.mpr hfinal, Nat.add_zero] at hsum
  · intro label hfinal hread
    have hsum := hcount label (h.mem_written hfinal)
    have hpos := List.count_pos_iff.mpr hfinal
    have hpos' := List.count_pos_iff.mpr hread
    omega

end Wired

end Montage.Filter
