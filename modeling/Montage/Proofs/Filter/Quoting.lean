/-
  Montage.Proofs.Filter.Quoting

  How the text of a graph is read back.  Inside single quotes every character stands for
  itself; outside them, a backslash takes the meaning from the character after it.  A
  value is closed if it can be read by itself; between closed values, the separators of
  a graph cut its text into its nodes, and those of a chain into its filters.
-/
import Mathlib.Data.List.Basic
import Montage.Filter.Basic
import Montage.Filter.Graph

namespace Montage.Filter

/-! ## Reading -/

/-- Where a reader of a graph stands: outside quotes, behind a backslash there, or inside
    quotes. -/
inductive Mode where
  | plain
  | escaped
  | quoted
  deriving DecidableEq, Repr

/-- How one character moves the reader. -/
def Mode.next (mode : Mode) (c : Char) : Mode :=
  match mode with
  | .plain => if c = '\\' then .escaped else if c = '\'' then .quoted else .plain
  | .escaped => .plain
  | .quoted => if c = '\'' then .plain else .quoted

/-- The pieces of a text between the places where a character stands that separates. -/
def pieces (stop : Char) : Mode → List Char → List (List Char)
  | _, [] => [[]]
  | mode, c :: rest =>
    if mode = .plain ∧ c = stop then [] :: pieces stop .plain rest
    else (pieces stop (mode.next c) rest).modifyHead (c :: ·)

/-- The pieces of a text that is read from its beginning. -/
def split (stop : Char) (text : String) : List String :=
  (pieces stop .plain text.toList).map String.ofList

/-- What follows the labels at the beginning of a text. -/
def skipLabels : Bool → List Char → List Char
  | _, [] => []
  | true, c :: rest => skipLabels (c ≠ ']') rest
  | false, c :: rest => if c = '[' then skipLabels true rest else c :: rest

/-- The chain of a node in its text: what stands between its labels. -/
def chainOf (node : String) : String :=
  String.ofList ((pieces '[' .plain (skipLabels false node.toList)).headD [])

/-- The characters at which a reader cuts: between filters, between nodes and before the
    labels at the end of a node. -/
def breaks : List Char := [',', ';', '[']

/-- Whether a text can be read by itself: it leaves no quote and no backslash open, and
    none of these characters separates in it. -/
def closedFrom (stops : List Char) : Mode → List Char → Bool
  | mode, [] => mode = .plain
  | mode, c :: rest => (mode ≠ .plain ∨ c ∉ stops) && closedFrom stops (mode.next c) rest

/-- Whether a text can be read by itself. -/
def Closed (stops : List Char) (text : String) : Prop :=
  closedFrom stops .plain text.toList = true

instance (stops : List Char) (text : String) : Decidable (Closed stops text) :=
  inferInstanceAs (Decidable (_ = true))

/-- Whether a text has nothing that a reader of a graph would take for anything else. -/
def IsPlain (text : String) : Prop :=
  ∀ c ∈ text.toList, c ≠ '\'' ∧ c ≠ '\\' ∧ c ∉ separators

instance (text : String) : Decidable (IsPlain text) :=
  @List.decidableBAll Char _ (fun _ => inferInstance) text.toList

/-! ## Closed texts -/

variable {stops : List Char} {mode : Mode} {first last : List Char}

theorem closedFrom_append (h : closedFrom stops mode first = true) :
    closedFrom stops mode (first ++ last) = closedFrom stops .plain last := by
  induction first generalizing mode with
  | nil =>
      rw [closedFrom, decide_eq_true_eq] at h
      rw [h]
      rfl
  | cons c rest ih =>
      rw [closedFrom, Bool.and_eq_true] at h
      rw [List.cons_append, closedFrom, h.1, ih h.2, Bool.true_and]

theorem closedFrom_mono {fewer : List Char} (hsubset : fewer ⊆ stops)
    (h : closedFrom stops mode first = true) : closedFrom fewer mode first = true := by
  induction first generalizing mode with
  | nil => exact h
  | cons c rest ih =>
      rw [closedFrom, Bool.and_eq_true, decide_eq_true_eq] at h ⊢
      exact ⟨h.1.imp_right fun hout hin => hout (hsubset hin), ih h.2⟩

theorem closedFrom_of_forall
    (h : ∀ c ∈ first, c ≠ '\'' ∧ c ≠ '\\' ∧ c ∉ stops) :
    closedFrom stops .plain first = true := by
  induction first with
  | nil => rfl
  | cons c rest ih =>
      obtain ⟨hquote, hbackslash, hstop⟩ := h c List.mem_cons_self
      have hnext : Mode.next .plain c = .plain := by
        rw [Mode.next, if_neg hbackslash, if_neg hquote]
      rw [closedFrom, Bool.and_eq_true, decide_eq_true_eq, hnext]
      exact ⟨.inr hstop, ih fun other hother => h other (List.mem_cons_of_mem c hother)⟩

/-- A text without a quote in it is closed between quotes. -/
theorem closedFrom_quoted (h : '\'' ∉ first) :
    closedFrom stops .quoted (first ++ ['\'']) = true := by
  induction first with
  | nil => simp [closedFrom, Mode.next]
  | cons c rest ih =>
      rw [List.mem_cons, not_or] at h
      have hnext : Mode.next .quoted c = .quoted := by
        rw [Mode.next, if_neg (Ne.symm h.1)]
      rw [List.cons_append, closedFrom, Bool.and_eq_true, decide_eq_true_eq, hnext]
      exact ⟨.inl (by decide), ih h.2⟩

/-! ## Pieces -/

/-- A closed text ends up in one piece, whatever follows. -/
theorem pieces_append {stop : Char} (hstop : stop ∈ stops)
    (h : closedFrom stops mode first = true) :
    pieces stop mode (first ++ last) =
      (pieces stop .plain last).modifyHead (first ++ ·) := by
  induction first generalizing mode with
  | nil =>
      rw [closedFrom, decide_eq_true_eq] at h
      rw [h]
      exact (congrFun List.modifyHead_id (pieces stop .plain last)).symm
  | cons c rest ih =>
      rw [closedFrom, Bool.and_eq_true, decide_eq_true_eq] at h
      have hout : ¬ (mode = .plain ∧ c = stop) := by
        rintro ⟨hmode, rfl⟩
        exact h.1.elim (fun hne => hne hmode) fun hnot => hnot hstop
      rw [List.cons_append, pieces, if_neg hout, ih h.2, List.modifyHead_modifyHead]
      rfl

theorem pieces_of_closed {stop : Char} (hstop : stop ∈ stops)
    (h : closedFrom stops .plain first = true) : pieces stop .plain first = [first] := by
  have hsplit : pieces stop .plain (first ++ []) = _ := pieces_append hstop h
  rw [List.append_nil] at hsplit
  rw [hsplit]
  simp [pieces]

/-- Closed parts with separators between them are cut where they were joined. -/
theorem pieces_intercalate {stop : Char} (hstop : stop ∈ stops) {parts : List (List Char)}
    (hclosed : ∀ part ∈ parts, closedFrom stops .plain part = true) (hne : parts ≠ []) :
    pieces stop .plain (List.intercalate [stop] parts) = parts := by
  induction parts with
  | nil => exact absurd rfl hne
  | cons part rest ih =>
      have hpart := hclosed part List.mem_cons_self
      cases rest with
      | nil => simpa using pieces_of_closed hstop hpart
      | cons other others =>
          have hrest := ih (fun next hnext => hclosed next (List.mem_cons_of_mem part hnext))
            (List.cons_ne_nil other others)
          rw [List.intercalate_cons_cons, List.append_assoc, pieces_append hstop hpart,
            List.singleton_append, pieces, if_pos ⟨rfl, rfl⟩, hrest]
          simp

theorem split_intercalate {stop : Char} (hstop : stop ∈ stops) {glue : String}
    (hglue : glue.toList = [stop]) {texts : List String}
    (hclosed : ∀ text ∈ texts, Closed stops text) (hne : texts ≠ []) :
    split stop (glue.intercalate texts) = texts := by
  have hparts : ∀ part ∈ texts.map String.toList, closedFrom stops .plain part = true := by
    intro part hpart
    obtain ⟨text, htext, rfl⟩ := List.mem_map.mp hpart
    exact hclosed text htext
  rw [split, String.toList_intercalate, hglue, pieces_intercalate hstop hparts (by simpa using hne),
    List.map_map]
  simp

/-! ## Values -/

namespace Closed

variable {text rest glue : String} {texts : List String}

theorem append (h : Closed stops text) (h' : Closed stops rest) : Closed stops (text ++ rest) := by
  rw [Closed, String.toList_append, closedFrom_append h]
  exact h'

theorem mono {fewer : List Char} (hsubset : fewer ⊆ stops) (h : Closed stops text) :
    Closed fewer text :=
  closedFrom_mono hsubset h

theorem intercalate (hglue : Closed stops glue) (h : ∀ text ∈ texts, Closed stops text) :
    Closed stops (glue.intercalate texts) := by
  induction texts with
  | nil => rfl
  | cons text rest ih =>
      cases rest with
      | nil =>
          rw [String.intercalate_singleton]
          exact h text List.mem_cons_self
      | cons other others =>
          rw [String.intercalate_cons_cons]
          exact ((h text List.mem_cons_self).append hglue).append
            (ih fun next hnext => h next (List.mem_cons_of_mem text hnext))

theorem join (h : ∀ text ∈ texts, Closed stops text) : Closed stops (String.join texts) := by
  induction texts with
  | nil => rfl
  | cons text rest ih =>
      rw [String.join_cons]
      exact (h text List.mem_cons_self).append
        (ih fun next hnext => h next (List.mem_cons_of_mem text hnext))

end Closed

theorem not_mem_breaks {c : Char} (h : c ∉ separators) : c ∉ breaks :=
  fun hmem => h (List.mem_append_left [']'] hmem)

theorem IsPlain.closed {text : String} (h : IsPlain text) : Closed breaks text :=
  closedFrom_of_forall fun c hc => ⟨(h c hc).1, (h c hc).2.1, not_mem_breaks (h c hc).2.2⟩

/-- A value without quotes and backslashes in it is closed: if anything separates in it, it
    is put into quotes. -/
theorem closed_valueText_of_bare {value : Json}
    (h : ∀ c ∈ value.display.toList, c ≠ '\'' ∧ c ≠ '\\') : Closed breaks (valueText value) := by
  have hnot : isQuoted value.display.toList = false := by
    rw [isQuoted, Bool.and_eq_false_iff]
    refine .inl (beq_eq_false_iff_ne.mpr fun hhead => ?_)
    exact (h '\'' (List.mem_of_head? hhead)).1 rfl
  have hquote : '\'' ∉ value.display.toList := fun hmem => (h '\'' hmem).1 rfl
  unfold valueText
  dsimp only
  rw [hnot, if_neg Bool.false_ne_true]
  split
  · rw [quote, Closed, String.toList_append, String.toList_append]
    exact closedFrom_quoted hquote
  next hseparator =>
    refine closedFrom_of_forall fun c hc =>
      ⟨(h c hc).1, (h c hc).2, not_mem_breaks fun hmem => hseparator ?_⟩
    exact List.any_eq_true.mpr ⟨c, hc, List.contains_iff_mem.mpr hmem⟩

/-! ## Nodes -/

/-- Whether the labels of a node, and the names and keys of its filters, are plain. -/
structure Node.IsPlain (node : Node) : Prop where
  labels : ∀ label ∈ node.inputs ++ node.outputs, Filter.IsPlain label
  names : ∀ filter ∈ node.chain, Filter.IsPlain filter.name ∧ filter.name ≠ ""
  keys : ∀ filter ∈ node.chain, ∀ option ∈ filter.options, Filter.IsPlain option.1

/-- The values of a filter. -/
def values (filter : Filter) : List Json :=
  filter.args ++ filter.options.map Prod.snd

theorem closed_render {filter : Filter} (hname : IsPlain filter.name)
    (hkeys : ∀ option ∈ filter.options, IsPlain option.1)
    (hvalues : ∀ value ∈ filter.values, Closed breaks (valueText value)) :
    Closed breaks filter.render := by
  have hparameters : ∀ parameter ∈ filter.parameters, Closed breaks parameter := by
    intro parameter hparameter
    rcases List.mem_append.mp hparameter with harg | hnamed
    · obtain ⟨value, hvalue, rfl⟩ := List.mem_map.mp harg
      exact hvalues value (List.mem_append_left _ hvalue)
    · obtain ⟨⟨key, value⟩, hoption, rfl⟩ := List.mem_map.mp hnamed
      have hmem : value ∈ filter.options.map Prod.snd := List.mem_map.mpr ⟨_, hoption, rfl⟩
      have hvalue := hvalues value (List.mem_append_right _ hmem)
      exact ((hkeys _ hoption).closed.append (by decide)).append hvalue
  unfold render
  split
  · exact hname.closed
  · exact (hname.closed.append (by decide)).append (.intercalate (by decide) hparameters)

section Node

variable {node : Node}

/-- What a node needs to be read back: plain names, and values that can be read by
    themselves. -/
structure Node.Readable (node : Node) : Prop where
  plain : node.IsPlain
  values : ∀ filter ∈ node.chain, ∀ value ∈ filter.values, Closed breaks (valueText value)

theorem Node.Readable.filter (h : node.Readable) {text : String}
    (htext : text ∈ node.chain.map Filter.render) : Closed breaks text := by
  obtain ⟨filter, hfilter, rfl⟩ := List.mem_map.mp htext
  exact closed_render (h.plain.names filter hfilter).1 (h.plain.keys filter hfilter)
    (h.values filter hfilter)

/-- A chain as text. -/
def Node.chainText (node : Node) : String :=
  ",".intercalate (node.chain.map Filter.render)

theorem Node.Readable.chain (h : node.Readable) : Closed [';', '['] node.chainText :=
  .intercalate (by decide) fun _ htext => (h.filter htext).mono (by decide)

theorem closed_labels {labels : List String} (h : ∀ label ∈ labels, IsPlain label) :
    Closed [';'] (String.join (labels.map Node.labelText)) := by
  refine .join fun text htext => ?_
  obtain ⟨label, hlabel, rfl⟩ := List.mem_map.mp htext
  have hplain : Closed [';'] label := (h label hlabel).closed.mono (by decide)
  exact (Closed.append (by decide) hplain).append (by decide)

theorem Node.Readable.closed (h : node.Readable) : Closed [';'] node.render := by
  have hinputs := closed_labels fun label hlabel =>
    h.plain.labels label (List.mem_append_left _ hlabel)
  have houtputs := closed_labels fun label hlabel =>
    h.plain.labels label (List.mem_append_right _ hlabel)
  exact (hinputs.append (h.chain.mono (by decide))).append houtputs

/-! ## Chains in nodes -/

theorem skipLabels_label {label rest : List Char} (h : ']' ∉ label) :
    skipLabels true (label ++ ']' :: rest) = skipLabels false rest := by
  induction label with
  | nil => simp [skipLabels]
  | cons c others ih =>
      rw [List.mem_cons, not_or] at h
      rw [List.cons_append, skipLabels, decide_eq_true (Ne.symm h.1)]
      exact ih h.2

theorem skipLabels_labels {labels : List String} (h : ∀ label ∈ labels, IsPlain label)
    (rest : List Char) :
    skipLabels false ((String.join (labels.map Node.labelText)).toList ++ rest) =
      skipLabels false rest := by
  induction labels with
  | nil => rfl
  | cons label others ih =>
      have hlabel : ']' ∉ label.toList := fun hmem =>
        (h label List.mem_cons_self _ hmem).2.2 (by decide)
      have hsplit : (String.join ((label :: others).map Node.labelText)).toList ++ rest =
          '[' :: (label.toList ++
            ']' :: ((String.join (others.map Node.labelText)).toList ++ rest)) := by
        simp [String.join_cons, Node.labelText]
      rw [hsplit, skipLabels, if_pos rfl, skipLabels_label hlabel]
      exact ih fun next hnext => h next (List.mem_cons_of_mem label hnext)

theorem skipLabels_of_closed (hbracket : '[' ∈ stops) (h : closedFrom stops .plain first = true)
    (hne : first ≠ []) : skipLabels false (first ++ last) = first ++ last := by
  cases first with
  | nil => exact absurd rfl hne
  | cons c rest =>
      rw [closedFrom, Bool.and_eq_true, decide_eq_true_eq] at h
      have hout : c ≠ '[' := by
        rintro rfl
        exact h.1.elim (fun hmode => hmode rfl) fun hnot => hnot hbracket
      rw [List.cons_append, skipLabels, if_neg hout]

/-- What is read before the labels at the end of a node ends at them. -/
theorem exists_pieces_labels (labels : List String) :
    ∃ others, pieces '[' .plain (String.join (labels.map Node.labelText)).toList = [] :: others := by
  cases labels with
  | nil => exact ⟨[], rfl⟩
  | cons label rest =>
      have hsplit : ∃ others,
          (String.join ((label :: rest).map Node.labelText)).toList = '[' :: others := by
        simp [String.join_cons, Node.labelText]
      obtain ⟨others, hothers⟩ := hsplit
      rw [hothers, pieces, if_pos ⟨rfl, rfl⟩]
      exact ⟨_, rfl⟩

theorem render_ne_empty {filter : Filter} (hname : filter.name ≠ "") : filter.render ≠ "" := by
  unfold render
  split
  · exact hname
  · simp [hname]

theorem toList_chainText_ne_nil (h : node.IsPlain) (hne : node.chain ≠ []) :
    node.chainText.toList ≠ [] := by
  rw [Node.chainText]
  cases hchain : node.chain with
  | nil => exact absurd hchain hne
  | cons filter rest =>
      have hfirst : filter.render ≠ "" :=
        render_ne_empty (h.names filter (hchain ▸ List.mem_cons_self)).2
      cases rest with
      | nil => simpa using hfirst
      | cons other others => simp [String.intercalate_cons_cons]

/-- The chain of a node is found again between its labels. -/
theorem chainOf_render (h : node.Readable) (hne : node.chain ≠ []) :
    chainOf node.render = node.chainText := by
  have hinputs : ∀ label ∈ node.inputs, IsPlain label := fun label hlabel =>
    h.plain.labels label (List.mem_append_left _ hlabel)
  have hrender : node.render.toList = (String.join (node.inputs.map Node.labelText)).toList ++
      (node.chainText.toList ++ (String.join (node.outputs.map Node.labelText)).toList) := by
    simp [Node.render, Node.chainText]
  obtain ⟨others, houtputs⟩ := exists_pieces_labels node.outputs
  rw [chainOf, hrender, skipLabels_labels hinputs,
    skipLabels_of_closed (by decide) h.chain (toList_chainText_ne_nil h.plain hne),
    pieces_append (by decide) h.chain, houtputs, List.modifyHead_cons, List.append_nil,
    List.headD_cons, String.ofList_toList]

end Node

/-! ## Graphs -/

/-- Whether the text of a graph can be cut into its nodes again, and that of each node into
    its filters. -/
structure Graph.ReadsBack (graph : Graph) : Prop where
  nodes : graph.nodes ≠ [] → split ';' graph.serialize = graph.renderedNodes
  chains : ∀ node ∈ graph.nodes, node.chain ≠ [] →
    split ',' (chainOf node.render) = node.chain.map Filter.render

theorem Graph.readsBack_of_readable {graph : Graph} (h : ∀ node ∈ graph.nodes, node.Readable) :
    graph.ReadsBack where
  nodes := by
    intro hne
    have hclosed : ∀ text ∈ graph.renderedNodes, Closed [';'] text := by
      intro text htext
      obtain ⟨node, hnode, rfl⟩ := List.mem_map.mp htext
      exact (h node hnode).closed
    exact split_intercalate (by decide) rfl hclosed (by simpa [renderedNodes] using hne)
  chains := by
    intro node hnode hne
    rw [chainOf_render (h node hnode) hne]
    exact split_intercalate (by decide) rfl (fun _ htext => (h node hnode).filter htext)
      (by simpa using hne)

/-- A graph with plain names is read back as long as each value can be read by itself. -/
theorem Graph.readsBack_of_closed {graph : Graph} (hplain : ∀ node ∈ graph.nodes, node.IsPlain)
    (hvalues : ∀ node ∈ graph.nodes, ∀ filter ∈ node.chain, ∀ value ∈ filter.values,
      Closed breaks (valueText value)) : graph.ReadsBack :=
  Graph.readsBack_of_readable fun node hnode => ⟨hplain node hnode, hvalues node hnode⟩

/-- A graph with a value that needs quotes, and a caption that has one in it. -/
def sampleGraph : Graph where
  nodes :=
    [⟨["0:v"],
      [{ name := "scale", args := [.int 640, .str "(oh-ih)/2"] },
       { name := "drawtext", options := [("text", .str (captionText "it's 5:00, go"))] }], ["v0"]⟩,
     ⟨["0:v", "v0"], [{ name := "overlay", options := [("enable", .str "between(t,1,2)")] }],
      ["v1"]⟩]

theorem Graph.readsBack_of_closed_sampleGraph : sampleGraph.ReadsBack := by
  have hplain : ∀ node ∈ sampleGraph.nodes, node.IsPlain := by
    simp only [sampleGraph, List.mem_cons, List.not_mem_nil, or_false, forall_eq_or_imp, forall_eq]
    exact ⟨⟨by decide, by decide, by decide⟩, ⟨by decide, by decide, by decide⟩⟩
  exact Graph.readsBack_of_closed hplain (by decide)

/-- A graph with an apostrophe in a value. -/
def apostropheGraph : Graph where
  nodes :=
    [⟨["0:v"],
      [{ name := "eq", options := [("brightness", .str "it's")] }, { name := "negate" }], ["v0"]⟩,
     ⟨["v0"], [{ name := "negate" }], ["v1"]⟩]

/-- An apostrophe opens quotes that nothing closes: the filter and the node behind it are
    read as parts of the value. -/
theorem Graph.not_readsBack_apostropheGraph :
    (∀ node ∈ apostropheGraph.nodes, node.IsPlain) ∧ ¬ apostropheGraph.ReadsBack := by
  constructor
  · simp only [apostropheGraph, List.mem_cons, List.not_mem_nil, or_false, forall_eq_or_imp,
      forall_eq]
    exact ⟨⟨by decide, by decide, by decide⟩, ⟨by decide, by decide, by decide⟩⟩
  · intro h
    have hone : (split ';' apostropheGraph.serialize).length = 1 := by decide +kernel
    rw [h.nodes (List.cons_ne_nil _ _)] at hone
    cases hone

/-! ## Values that are not closed -/

/-- A text is one piece, or it is cut behind a first piece that can be read by itself. -/
theorem pieces_cases (stop : Char) (mode : Mode) (text : List Char) :
    pieces stop mode text = [text] ∨ ∃ first rest, text = first ++ stop :: rest ∧
      closedFrom [stop] mode first = true ∧
      pieces stop mode text = first :: pieces stop .plain rest := by
  induction text generalizing mode with
  | nil => exact .inl rfl
  | cons c text ih =>
      rw [pieces]
      split
      next hcut =>
        obtain ⟨rfl, rfl⟩ := hcut
        exact .inr ⟨[], text, rfl, rfl, rfl⟩
      next hcut =>
        rcases ih (mode.next c) with hone | ⟨first, rest, rfl, hclosed, hpieces⟩
        · exact .inl (by rw [hone]; rfl)
        · refine .inr ⟨c :: first, rest, rfl, ?_, by rw [hpieces]; rfl⟩
          rw [closedFrom, hclosed, Bool.and_true, decide_eq_true_eq, List.mem_singleton]
          exact not_and_or.mp hcut

/-- Where a text is cut, its first piece can be read by itself. -/
theorem closedFrom_of_pieces {stop : Char} {mode : Mode} {text first second : List Char}
    {others : List (List Char)} (h : pieces stop mode text = first :: second :: others) :
    closedFrom [stop] mode first = true ∧
      ∃ rest, text = first ++ stop :: rest ∧ pieces stop .plain rest = second :: others := by
  rcases pieces_cases stop mode text with hone | ⟨piece, rest, htext, hclosed, hpieces⟩
  · rw [hone] at h
    cases h
  · rw [hpieces] at h
    obtain ⟨rfl, hrest⟩ := List.cons.inj h
    exact ⟨hclosed, rest, htext, hrest⟩

theorem eq_of_pieces {stop : Char} {mode : Mode} {text piece : List Char}
    (h : pieces stop mode text = [piece]) : text = piece := by
  rcases pieces_cases stop mode text with hone | ⟨first, rest, -, -, hpieces⟩
  · rw [hone] at h
    exact (List.cons.inj h).1
  · rw [hpieces] at h
    rcases pieces_cases stop .plain rest with hrest | ⟨_, _, -, -, hrest⟩
    · rw [hrest] at h
      cases h
    · rw [hrest] at h
      cases h

/-- If a text leaves nothing open, then only what separates in it depends on the
    characters that separate. -/
theorem closedFrom_of_append {others : List Char} (h : closedFrom stops mode first = true)
    (h' : closedFrom others mode (first ++ last) = true) : closedFrom others mode first = true := by
  induction first generalizing mode with
  | nil => exact h
  | cons c rest ih =>
      rw [closedFrom, Bool.and_eq_true] at h
      rw [List.cons_append, closedFrom, Bool.and_eq_true] at h'
      rw [closedFrom, Bool.and_eq_true]
      exact ⟨h'.1, ih h.2 h'.2⟩

theorem closedFrom_append_stops {others : List Char} (h : closedFrom stops mode first = true)
    (h' : closedFrom others mode first = true) :
    closedFrom (stops ++ others) mode first = true := by
  induction first generalizing mode with
  | nil => exact h
  | cons c rest ih =>
      rw [closedFrom, Bool.and_eq_true, decide_eq_true_eq] at h h' ⊢
      refine ⟨?_, ih h.2 h'.2⟩
      rw [List.mem_append, not_or]
      exact h.1.elim .inl fun hout => h'.1.elim .inl fun hout' => .inr ⟨hout, hout'⟩

/-- A value in a filter that another filter and another node follow. -/
def probe (value : Json) : Graph where
  nodes :=
    [⟨["a"], [{ name := "f", args := [value] }, { name := "g" }], ["b"]⟩,
     ⟨["b"], [{ name := "g" }], ["c"]⟩]

theorem isPlain_probe (value : Json) : ∀ node ∈ (probe value).nodes, node.IsPlain := by
  have hlabels : IsPlain "a" ∧ IsPlain "b" ∧ IsPlain "c" := by decide
  have hnames : IsPlain "f" ∧ IsPlain "g" := by decide
  simp only [probe, List.mem_cons, List.not_mem_nil, or_false, forall_eq_or_imp, forall_eq]
  exact ⟨⟨by simp [hlabels], by simp [hnames], by simp⟩,
    ⟨by simp [hlabels], by simp [hnames], by simp⟩⟩

theorem pieces_of_split {stop : Char} {text : String} {texts : List String}
    (h : split stop text = texts) : pieces stop .plain text.toList = texts.map String.toList := by
  rw [← h, split, List.map_map]
  simp

/-- The values that are closed are exactly those that may stand anywhere. -/
theorem readsBack_probe_iff (value : Json) :
    (probe value).ReadsBack ↔ Closed breaks (valueText value) := by
  constructor
  · intro h
    have hnodes := pieces_of_split (h.nodes (List.cons_ne_nil _ _))
    have hchain := pieces_of_split (h.chains _ List.mem_cons_self (List.cons_ne_nil _ _))
    have hfilter : ({ name := "f", args := [value] } : Filter).render.toList =
        ['f', '='] ++ (valueText value).toList := by
      simp [render, parameters]
    have hnode :
        Node.render ⟨["a"], [{ name := "f", args := [value] }, { name := "g" }], ["b"]⟩ =
          String.ofList (['[', 'a', ']', 'f', '='] ++
            ((valueText value).toList ++ [',', 'g', '[', 'b', ']'])) := by
      apply String.toList_inj.mp
      simp [Node.render, Node.labelText, render, parameters, String.join_cons]
    -- the first filter is cut off behind its value
    obtain ⟨hcomma, rest, htext, hrest⟩ := closedFrom_of_pieces hchain
    rw [hfilter, closedFrom_append rfl] at hcomma
    rw [hfilter, eq_of_pieces hrest, List.append_assoc] at htext
    -- so is the first node
    have hsemicolon := (closedFrom_of_pieces hnodes).1
    rw [hnode, String.toList_ofList, closedFrom_append rfl] at hsemicolon
    -- and the chain ends where the labels begin
    have hbracket : closedFrom ['['] .plain ((valueText value).toList ++ [',', 'g']) = true := by
      have hskip : skipLabels false (['[', 'a', ']', 'f', '='] ++
          ((valueText value).toList ++ [',', 'g', '[', 'b', ']'])) =
            ['f', '='] ++ ((valueText value).toList ++ [',', 'g', '[', 'b', ']']) := rfl
      rw [hnode, chainOf, String.toList_ofList, String.toList_ofList, hskip] at htext
      rcases pieces_cases '[' .plain (['f', '='] ++
          ((valueText value).toList ++ [',', 'g', '[', 'b', ']'])) with
        hone | ⟨first, _, -, hfirst, hcut⟩
      · rw [hone, List.headD_cons] at htext
        have hlength := congrArg List.length htext
        simp [render, parameters] at hlength
      · rw [hcut, List.headD_cons] at htext
        rw [htext, closedFrom_append rfl] at hfirst
        exact hfirst
    have hstops := closedFrom_append_stops (closedFrom_of_append hcomma hsemicolon)
      (closedFrom_of_append hcomma hbracket)
    exact closedFrom_append_stops hcomma hstops
  · intro hclosed
    refine Graph.readsBack_of_readable fun node hnode => ⟨isPlain_probe value node hnode, ?_⟩
    revert node
    simp only [probe, List.mem_cons, List.not_mem_nil, or_false, forall_eq_or_imp, forall_eq]
    simp [values, hclosed]

end Montage.Filter
