/-
  Montage.Proofs.Filter.Caption

  A caption stays inside its own value.  A reader of a graph takes it as one token, whose
  content is the caption with backslashes in front of the characters that a drawn text
  gives a meaning to; and another caption in the same place changes nothing but this
  token.
-/
import Montage.Compile.Picture
import Montage.Proofs.Filter.Quoting

namespace Montage.Filter

/-! ## Tokens -/

/-- The characters that separate in the text of a graph: parameters, filters, nodes and
    labels. -/
def delimiters : List Char := [':', ',', ';', '[', ']']

/-- Whether all of these characters stand inside quotes, and nothing is left open at the
    end. -/
def enclosedFrom (marks : List Char) : Mode → List Char → Bool
  | mode, [] => mode = .plain
  | mode, c :: rest => (mode = .quoted ∨ c ∉ marks) && enclosedFrom marks (mode.next c) rest

/-- Whether a reader drops a character: a quote that opens or closes, or a backslash that
    takes the meaning from the character after it. -/
def Mode.drops (mode : Mode) (c : Char) : Bool :=
  match mode with
  | .plain => c = '\\' ∨ c = '\''
  | .escaped => false
  | .quoted => c = '\''

/-- What a reader keeps of a text. -/
def contentFrom : Mode → List Char → List Char
  | _, [] => []
  | mode, c :: rest => (if mode.drops c then [] else [c]) ++ contentFrom (mode.next c) rest

/-- The unquoted content of a text. -/
def content (text : String) : String :=
  String.ofList (contentFrom .plain text.toList)

/-- What is enclosed in quotes does not separate. -/
theorem closedFrom_of_enclosed {stops : List Char} {mode : Mode} {text : List Char}
    (h : enclosedFrom stops mode text = true) : closedFrom stops mode text = true := by
  induction text generalizing mode with
  | nil => exact h
  | cons c rest ih =>
      rw [enclosedFrom, Bool.and_eq_true, decide_eq_true_eq] at h
      rw [closedFrom, Bool.and_eq_true, decide_eq_true_eq]
      refine ⟨h.1.imp_left fun hquoted => ?_, ih h.2⟩
      rw [hquoted]
      decide

/-! ## Escapes -/

/-- One character of the content of a caption: backslash, colon and percent sign have a
    backslash in front. -/
def escapedChar (c : Char) : List Char :=
  if c = '\\' ∨ c = ':' ∨ c = '%' then ['\\', c] else [c]

/-- A caption as the content of its token. -/
def escaped (caption : String) : String :=
  String.ofList (caption.toList.flatMap escapedChar)

/-- A text without the backslashes that stand in front of characters; the flag says whether
    there was one. -/
def unescapeFrom : Bool → List Char → List Char
  | _, [] => []
  | true, c :: rest => c :: unescapeFrom false rest
  | false, c :: rest => if c = '\\' then unescapeFrom true rest else c :: unescapeFrom false rest

def unescape (text : String) : String :=
  String.ofList (unescapeFrom false text.toList)

theorem unescape_escaped (caption : String) : unescape (escaped caption) = caption := by
  have hchars : ∀ text : List Char, unescapeFrom false (text.flatMap escapedChar) = text := by
    intro text
    induction text with
    | nil => rfl
    | cons c rest ih =>
        rw [List.flatMap_cons, escapedChar]
        split
        next => simp [unescapeFrom, ih]
        next hplain =>
          rw [not_or] at hplain
          simp [unescapeFrom, hplain.1, ih]
  rw [unescape, escaped, String.toList_ofList, hchars, String.ofList_toList]

/-! ## Replacements -/

/-- A text with another text in place of each occurrence of a character. -/
def replaced (old : Char) (new text : List Char) : List Char :=
  text.flatMap fun c => if c = old then new else [c]

/-- The replacements that make a caption safe, one after the other. -/
def replacements (caption : List Char) : List Char :=
  replaced '\'' ['\'', '\\', '\'', '\''] (replaced '%' ['\\', '%']
    (replaced ':' ['\\', ':'] (replaced '\\' ['\\', '\\'] caption)))

/-- The replacements come to one for each character, since none of them finds what an
    earlier one has put in. -/
theorem replacements_eq (caption : List Char) :
    replacements caption = caption.flatMap captionChar := by
  induction caption with
  | nil => rfl
  | cons c rest ih =>
      have hsplit : replacements (c :: rest) = replacements [c] ++ replacements rest := by
        simp only [replacements, replaced, List.flatMap_cons, List.flatMap_nil, List.append_nil,
          List.flatMap_append]
      rw [hsplit, ih, List.flatMap_cons]
      congr 1
      by_cases hbackslash : c = '\\'
      · subst hbackslash
        rfl
      by_cases hcolon : c = ':'
      · subst hcolon
        rfl
      by_cases hpercent : c = '%'
      · subst hpercent
        rfl
      by_cases hquote : c = '\''
      · subst hquote
        rfl
      simp [replacements, replaced, captionChar, hbackslash, hcolon, hpercent, hquote]

/-! ## The token of a caption -/

theorem toList_captionText (caption : String) :
    (captionText caption).toList = '\'' :: (caption.toList.flatMap captionChar ++ ['\'']) := by
  rw [captionText, String.toList_ofList, List.cons_append]

theorem isQuoted_captionText (caption : String) :
    isQuoted (captionText caption).toList = true := by
  rw [isQuoted, captionText, String.toList_ofList, List.getLast?_append]
  rfl

/-- A caption is a value as it stands. -/
theorem valueText_captionText (caption : String) :
    valueText (.str (captionText caption)) = captionText caption := by
  unfold valueText
  exact if_pos (isQuoted_captionText caption)

/-- Inside the quotes, every character of a caption leaves the reader where it was. -/
theorem enclosedFrom_captionChar (c : Char) (rest : List Char) :
    enclosedFrom delimiters .quoted (captionChar c ++ rest) =
      enclosedFrom delimiters .quoted rest := by
  unfold captionChar
  split
  next hescaped => rcases hescaped with rfl | rfl | rfl <;> rfl
  next =>
    split
    next => rfl
    next hquote => simp [enclosedFrom, Mode.next, hquote]

theorem enclosed_captionText (caption : String) :
    enclosedFrom delimiters .plain (captionText caption).toList = true := by
  have hinside : ∀ text : List Char,
      enclosedFrom delimiters .quoted (text.flatMap captionChar ++ ['\'']) = true := by
    intro text
    induction text with
    | nil => rfl
    | cons c rest ih =>
        rw [List.flatMap_cons, List.append_assoc, enclosedFrom_captionChar]
        exact ih
  rw [toList_captionText]
  exact hinside caption.toList

/-- A caption is closed, whatever stands in it. -/
theorem closed_captionText (caption : String) : Closed delimiters (captionText caption) :=
  closedFrom_of_enclosed (enclosed_captionText caption)

theorem contentFrom_captionChar (c : Char) (rest : List Char) :
    contentFrom .quoted (captionChar c ++ rest) = escapedChar c ++ contentFrom .quoted rest := by
  unfold captionChar escapedChar
  split
  next hescaped => rcases hescaped with rfl | rfl | rfl <;> rfl
  next =>
    split
    next hquote =>
      subst hquote
      rfl
    next hquote => simp [contentFrom, Mode.drops, Mode.next, hquote]

theorem content_captionText (caption : String) :
    content (captionText caption) = escaped caption := by
  have hinside : ∀ text : List Char,
      contentFrom .quoted (text.flatMap captionChar ++ ['\'']) = text.flatMap escapedChar := by
    intro text
    induction text with
    | nil => rfl
    | cons c rest ih =>
        rw [List.flatMap_cons, List.append_assoc, contentFrom_captionChar, ih, List.flatMap_cons]
  have hopen : contentFrom .plain (captionText caption).toList =
      contentFrom .quoted (caption.toList.flatMap captionChar ++ ['\'']) := by
    rw [toList_captionText]
    rfl
  rw [content, hopen, hinside, escaped]

theorem captionText_injective : Function.Injective captionText := by
  intro first second h
  have hcontent := congrArg (fun text => unescape (content text)) h
  simpa only [content_captionText, unescape_escaped] using hcontent

/-! ## Captions in texts -/

theorem next_of_mem_delimiters {stop : Char} (h : stop ∈ delimiters) :
    Mode.next .plain stop = .plain := by
  simp only [delimiters, List.mem_cons, List.not_mem_nil, or_false] at h
  rcases h with rfl | rfl | rfl | rfl | rfl <;> rfl

/-- What follows a text that leaves nothing open only goes on with its last piece. -/
theorem exists_pieces_append {stop : Char} (hstop : stop ∈ delimiters) {mode : Mode}
    {first : List Char} (h : closedFrom [] mode first = true) :
    ∃ earlier head, ∀ rest, pieces stop mode (first ++ rest) =
      earlier ++ (pieces stop .plain rest).modifyHead (head ++ ·) := by
  induction first generalizing mode with
  | nil =>
      rw [closedFrom, decide_eq_true_eq] at h
      refine ⟨[], [], fun rest => ?_⟩
      rw [h]
      exact (congrFun List.modifyHead_id (pieces stop .plain rest)).symm
  | cons c first ih =>
      rw [closedFrom, Bool.and_eq_true] at h
      obtain ⟨earlier, head, hpieces⟩ := ih h.2
      by_cases hcut : mode = .plain ∧ c = stop
      · obtain ⟨rfl, rfl⟩ := hcut
        rw [next_of_mem_delimiters hstop] at hpieces
        refine ⟨[] :: earlier, head, fun rest => ?_⟩
        rw [List.cons_append, pieces, if_pos ⟨rfl, rfl⟩, hpieces]
        rfl
      -- the character goes to the first piece, which may be the last one as well
      · cases earlier with
        | nil =>
            refine ⟨[], c :: head, fun rest => ?_⟩
            rw [List.cons_append, pieces, if_neg hcut, hpieces, List.nil_append,
              List.modifyHead_modifyHead]
            rfl
        | cons piece others =>
            refine ⟨(c :: piece) :: others, head, fun rest => ?_⟩
            rw [List.cons_append, pieces, if_neg hcut, hpieces]
            rfl

/-- A reader that cuts a text in two versions, which differ in one value, finds the same
    pieces but for one, which holds the whole value. -/
def DifferInOnePiece (stop : Char) (first second : String × String) : Prop :=
  ∃ earlier head tail later,
    split stop first.1 = earlier ++ (head ++ first.2 ++ tail) :: later ∧
      split stop second.1 = earlier ++ (head ++ second.2 ++ tail) :: later

theorem exists_split_captionText {stop : Char} (hstop : stop ∈ delimiters) {before : String}
    (hbefore : Closed [] before) (after : String) :
    ∃ earlier head tail later, ∀ caption,
      split stop (before ++ captionText caption ++ after) =
        earlier ++ (head ++ captionText caption ++ tail) :: later := by
  obtain ⟨earlier, head, hpieces⟩ := exists_pieces_append hstop hbefore
  cases hafter : pieces stop .plain after.toList with
  | nil =>
      rcases pieces_cases stop .plain after.toList with hone | ⟨first, rest, -, -, hmore⟩
      · rw [hone] at hafter
        cases hafter
      · rw [hmore] at hafter
        cases hafter
  | cons tail later =>
      refine ⟨earlier.map String.ofList, String.ofList head, String.ofList tail,
        later.map String.ofList, fun caption => ?_⟩
      have htoken : pieces stop .plain ((captionText caption).toList ++ after.toList) =
          ((captionText caption).toList ++ tail) :: later := by
        rw [pieces_append hstop (closed_captionText caption), hafter]
        rfl
      rw [split, String.toList_append, String.toList_append, List.append_assoc, hpieces, htoken]
      simp [String.append_assoc]

theorem differInOnePiece_captionText {stop : Char} (hstop : stop ∈ delimiters) {before : String}
    (hbefore : Closed [] before) (after caption other : String) :
    DifferInOnePiece stop (before ++ captionText caption ++ after, captionText caption)
      (before ++ captionText other ++ after, captionText other) := by
  obtain ⟨earlier, head, tail, later, hsplit⟩ := exists_split_captionText hstop hbefore after
  exact ⟨earlier, head, tail, later, hsplit caption, hsplit other⟩

/-! ## Captions in filters -/

/-- A text among others that are joined stands in the whole as it is. -/
theorem exists_intercalate (glue : String) (first last : List String) :
    ∃ before after, ∀ text,
      glue.intercalate (first ++ text :: last) = before ++ text ++ after := by
  induction first with
  | nil =>
      cases last with
      | nil => exact ⟨"", "", fun text => by simp⟩
      | cons next others =>
          refine ⟨"", glue ++ glue.intercalate (next :: others), fun text => ?_⟩
          rw [List.nil_append, String.intercalate_cons_cons, String.empty_append,
            String.append_assoc]
  | cons head rest ih =>
      obtain ⟨before, after, hrest⟩ := ih
      refine ⟨head ++ glue ++ before, after, fun text => ?_⟩
      obtain ⟨next, others, hnext⟩ : ∃ next others, rest ++ text :: last = next :: others :=
        List.exists_cons_of_ne_nil (by simp)
      rw [List.cons_append, hnext, String.intercalate_cons_cons, ← hnext, hrest text]
      simp only [String.append_assoc]

/-- A filter passes a caption on as it stands, wherever it is given. -/
theorem exists_render_option (name key : String) (args : List Json)
    (first last : List (String × Json)) :
    ∃ before after, ∀ caption,
      Filter.render { name, args, options := first ++ (key, .str (captionText caption)) :: last } =
        before ++ captionText caption ++ after := by
  let optionText (option : String × Json) : String := option.1 ++ "=" ++ valueText option.2
  obtain ⟨before, after, hjoined⟩ := exists_intercalate ":"
    (args.map valueText ++ first.map optionText) (last.map optionText)
  refine ⟨name ++ "=" ++ before ++ key ++ "=", after, fun caption => ?_⟩
  have hparameters : Filter.parameters
      { name, args, options := first ++ (key, .str (captionText caption)) :: last } =
        (args.map valueText ++ first.map optionText) ++
          (key ++ "=" ++ captionText caption) :: last.map optionText := by
    simp [parameters, optionText, valueText_captionText]
  have hsome : ∃ parameter others,
      (args.map valueText ++ first.map optionText) ++
        (key ++ "=" ++ captionText caption) :: last.map optionText = parameter :: others :=
    List.exists_cons_of_ne_nil (by simp)
  obtain ⟨parameter, others, hsome⟩ := hsome
  rw [render, hparameters, hsome]
  dsimp only
  rw [← hsome, hjoined]
  simp only [String.append_assoc]

theorem exists_render_first (name key : String) (last : List (String × Json)) :
    ∃ after, ∀ caption,
      Filter.render { name, options := (key, .str (captionText caption)) :: last } =
        name ++ "=" ++ key ++ "=" ++ captionText caption ++ after := by
  let optionText (option : String × Json) : String := option.1 ++ "=" ++ valueText option.2
  have hparameters : ∀ caption, Filter.parameters
      { name, options := (key, .str (captionText caption)) :: last } =
        (key ++ "=" ++ captionText caption) :: last.map optionText := by
    intro caption
    simp [parameters, optionText, valueText_captionText]
  cases hlast : last.map optionText with
  | nil =>
      refine ⟨"", fun caption => ?_⟩
      rw [render, hparameters, hlast]
      simp [String.append_assoc]
  | cons next others =>
      refine ⟨":" ++ ":".intercalate (next :: others), fun caption => ?_⟩
      rw [render, hparameters, hlast]
      dsimp only
      rw [String.intercalate_cons_cons]
      simp only [String.append_assoc]

end Montage.Filter

namespace Montage.Compile

open Montage.Filter Montage.Timeline

/-- The filter that draws a caption has it as its first parameter, and nothing else in it
    depends on the caption. -/
theorem exists_render_captionFilter (options : Options) (element : TextElement) :
    ∃ after, ∀ caption, (captionFilter options { element with content := caption }).render =
      "drawtext=text=" ++ captionText caption ++ after := by
  obtain ⟨after, hrender⟩ := exists_render_first "drawtext" "text"
    (captionFilter options element).options.tail
  refine ⟨after, fun caption => ?_⟩
  have hedges : captionEdges options { element with content := caption } =
      captionEdges options element := by
    simp only [captionEdges, captionPosition]
  have hbox : captionBox options { element with content := caption } =
      captionBox options element := by
    unfold captionBox TextElement.hasBackground
    rfl
  have hfilter : captionFilter options { element with content := caption } =
      { name := "drawtext"
        options := ("text", .str (captionText caption)) ::
          (captionFilter options element).options.tail } := by
    simp only [captionFilter, hedges, hbox, gate, List.cons_append, List.tail_cons]
  have hopening : "drawtext" ++ "=" ++ "text" ++ "=" = "drawtext=text=" := by decide
  rw [hfilter, hrender, hopening]

theorem differInOnePiece_captionFilter {stop : Char} (hstop : stop ∈ delimiters) {before : String}
    (hbefore : Closed [] before) (options : Options) (element : TextElement)
    (after caption other : String) :
    DifferInOnePiece stop
      (before ++ (captionFilter options { element with content := caption }).render ++ after,
        captionText caption)
      (before ++ (captionFilter options { element with content := other }).render ++ after,
        captionText other) := by
  obtain ⟨rest, hrender⟩ := exists_render_captionFilter options element
  have hopen : Closed [] (before ++ "drawtext=text=") := hbefore.append (by decide)
  have hdiffer := differInOnePiece_captionText hstop hopen (rest ++ after) caption other
  rw [hrender, hrender]
  simpa only [String.append_assoc] using hdiffer

/-- What holds of a caption in the text of a graph. -/
structure Confined (caption : String) : Prop where
  /-- It is made safe by replacements one after the other, and put into quotes. -/
  written : captionText caption = String.ofList ('\'' :: replacements caption.toList ++ ['\''])
  /-- It is one token: whatever could separate stands inside quotes, and all quotes are
      closed. -/
  enclosed : enclosedFrom delimiters .plain (captionText caption).toList = true
  /-- Its content is the caption with a backslash in front of each backslash, colon and
      percent sign. -/
  content : Filter.content (captionText caption) = escaped caption
  /-- Without these backslashes it is the caption again, so no other one has the same value. -/
  restored : unescape (Filter.content (captionText caption)) = caption
  distinct : ∀ other, captionText other = captionText caption → other = caption
  /-- As a value of a filter it is left as it stands. -/
  value : valueText (.str (captionText caption)) = captionText caption
  /-- The text of a filter has it in it, and is the same but for it with any other caption. -/
  passed : ∀ (name key : String) (args : List Json) (first last : List (String × Json))
      (other : String), ∃ before after,
    Filter.render { name, args, options := first ++ (key, .str (captionText caption)) :: last } =
        before ++ captionText caption ++ after ∧
      Filter.render { name, args, options := first ++ (key, .str (captionText other)) :: last } =
        before ++ captionText other ++ after
  /-- Where a reader begins with it as a value, it finds the same parameters, filters, nodes
      and labels as with any other caption there. -/
  alone : ∀ stop ∈ delimiters, ∀ before after other, Closed [] before →
    DifferInOnePiece stop (before ++ captionText caption ++ after, captionText caption)
      (before ++ captionText other ++ after, captionText other)
  /-- So it does where the caption is drawn, whatever is drawn before and after. -/
  drawn : ∀ stop ∈ delimiters, ∀ (options : Options) (element : TextElement)
      (before after other : String), Closed [] before →
    DifferInOnePiece stop
      (before ++ (captionFilter options { element with content := caption }).render ++ after,
        captionText caption)
      (before ++ (captionFilter options { element with content := other }).render ++ after,
        captionText other)

/-- No caption can end its own value. -/
theorem caption_confined (caption : String) : Confined caption where
  written := by rw [replacements_eq, captionText]
  enclosed := enclosed_captionText caption
  content := content_captionText caption
  restored := by rw [content_captionText, unescape_escaped]
  distinct := fun _ h => captionText_injective h
  value := valueText_captionText caption
  passed := by
    intro name key args first last other
    obtain ⟨before, after, hrender⟩ := exists_render_option name key args first last
    exact ⟨before, after, hrender caption, hrender other⟩
  alone := fun _ hstop _ after other hbefore =>
    differInOnePiece_captionText hstop hbefore after caption other
  drawn := fun _ hstop options element _ after other hbefore =>
    differInOnePiece_captionFilter hstop hbefore options element after caption other

/-- A caption with everything in it that a reader could take for something else. -/
example : captionText "it's [5:00]; 100%, \\o/" = "'it'\\''s [5\\:00]; 100\\%, \\\\o/'" := by
  decide +kernel

end Montage.Compile
