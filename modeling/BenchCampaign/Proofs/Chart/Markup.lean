import BenchCampaign.Proofs.Chart.Escape

/-!
# The markup of a document

A tag is what stands between a less-than sign and the next greater-than sign, whatever it is.
Where no attribute has a greater-than sign, the tags of a document are those of its elements, one
element after the other, and the texts between tags are what the elements hold, escaped.  So free
text has no influence on the tags.

* `Svg.pieces`: the tags of a document, with the texts behind them.
* `Svg.pieces_render`: the pieces of a document are those of its elements.
* `Svg.tags_render_eq`: documents that differ in free text have the same tags.
* `Svg.textContents_render`: the contents of the text elements.
-/

namespace BenchCampaign

namespace Svg

/-! ## Pieces -/

/-- A tag, without its signs, and the text behind it up to the next tag. -/
structure Piece where
  tag : List Char
  text : List Char
deriving DecidableEq, Repr

/-- What stands behind the first tag that begins here. -/
def behindTag (inside : List Char) : List Char := (inside.dropWhile (· ≠ '>')).drop 1

theorem length_behindTag_le (inside : List Char) : (behindTag inside).length ≤ inside.length := by
  rw [behindTag, List.length_drop]
  exact Nat.le_trans (Nat.sub_le _ 1) (List.dropWhile_sublist _).length_le

/-- The tags of a document, each with the text behind it. -/
def pieces (document : List Char) : List Piece :=
  match _begins : document.dropWhile (· ≠ '<') with
  | [] => []
  | _ :: inside =>
    ⟨inside.takeWhile (· ≠ '>'), (behindTag inside).takeWhile (· ≠ '<')⟩ ::
      pieces (behindTag inside)
termination_by document.length
decreasing_by
  have left := (List.dropWhile_sublist (l := document) (p := (· ≠ '<'))).length_le
  rw [_begins] at left
  exact Nat.lt_of_le_of_lt (length_behindTag_le inside) left

/-- The tags of a document, attributes included. -/
def tags (document : List Char) : List (List Char) := (pieces document).map Piece.tag

/-- The name of the element that a tag opens; a tag that closes one has none. -/
def Piece.name (p : Piece) : List Char := p.tag.takeWhile fun c => c ≠ ' ' && c ≠ '/'

/-- What the text elements of a document hold, in order. -/
def textContents (document : List Char) : List (List Char) :=
  ((pieces document).filter fun p => p.name = "text".toList).map Piece.text

/-- A text that is over, or goes on with a tag. -/
def BeginsTag (document : List Char) : Prop := ∀ c ∈ document.head?, c = '<'

section Pieces

variable {inside text rest : List Char}

theorem ne_of_notMem {c : Char} (free : c ∉ text) : ∀ d ∈ text, decide (d ≠ c) = true :=
  fun _ member => decide_eq_true fun same => free (same ▸ member)

theorem pieces_of_text (plain : '<' ∉ text) (rest : List Char) :
    pieces (text ++ rest) = pieces rest := by
  have skipped : (text ++ rest).dropWhile (· ≠ '<') = rest.dropWhile (· ≠ '<') :=
    List.dropWhile_append_of_pos (ne_of_notMem plain)
  rw [pieces, pieces, skipped]

theorem takeWhile_of_text (plain : '<' ∉ text) (begins : BeginsTag rest) :
    (text ++ rest).takeWhile (· ≠ '<') = text := by
  rw [List.takeWhile_append_of_pos (ne_of_notMem plain)]
  cases rest with
  | nil => exact List.append_nil text
  | cons c rest => simp [begins c rfl]

theorem pieces_cons (inside : List Char) :
    pieces ('<' :: inside) =
      ⟨inside.takeWhile (· ≠ '>'), (behindTag inside).takeWhile (· ≠ '<')⟩ ::
        pieces (behindTag inside) := by
  rw [pieces]
  rfl

/-- A tag ends at its first greater-than sign. -/
theorem pieces_of_tag (closed : '>' ∉ inside) (plain : '<' ∉ text) (begins : BeginsTag rest) :
    pieces ('<' :: (inside ++ '>' :: (text ++ rest))) = ⟨inside, text⟩ :: pieces rest := by
  have within := ne_of_notMem closed
  have tag : (inside ++ '>' :: (text ++ rest)).takeWhile (· ≠ '>') = inside := by
    rw [List.takeWhile_append_of_pos within]
    simp
  have behind : behindTag (inside ++ '>' :: (text ++ rest)) = text ++ rest := by
    rw [behindTag, List.dropWhile_append_of_pos within]
    simp
  rw [pieces_cons, tag, behind, takeWhile_of_text plain begins, pieces_of_text plain]

end Pieces

/-! ## Elements -/

/-- An attribute without a greater-than sign. -/
def Attribute.Closed (a : Attribute) : Prop := '>' ∉ a.name.toList ∧ '>' ∉ a.value.toList

/-- A name that no sign of markup ends. -/
def IsName (name : String) : Prop := ∀ c ∈ name.toList, c ≠ '>' ∧ c ≠ ' ' ∧ c ≠ '/'

theorem isName_svg : IsName "svg" := by simp [IsName]

theorem isName_text : IsName "text" := by simp [IsName]

/-- What stands between the signs of a tag that opens an element. -/
def inside (name : String) (attributes : List Attribute) : List Char :=
  name.toList ++ attributes.flatMap Attribute.render

namespace Element

/-- Elements whose tags end where they should; only texts have free text. -/
def Closed : Element → Prop
  | opening attributes | text attributes _ => ∀ a ∈ attributes, a.Closed
  | shape name attributes => (IsName name ∧ name ≠ "text") ∧ ∀ a ∈ attributes, a.Closed
  | closing => True

section Closed

variable {name content : String} {attributes : List Attribute}

@[simp]
theorem closed_opening : (opening attributes).Closed ↔ ∀ a ∈ attributes, a.Closed := Iff.rfl

@[simp]
theorem closed_text : (text attributes content).Closed ↔ ∀ a ∈ attributes, a.Closed := Iff.rfl

@[simp]
theorem closed_shape :
    (shape name attributes).Closed ↔
      (IsName name ∧ name ≠ "text") ∧ ∀ a ∈ attributes, a.Closed := Iff.rfl

@[simp]
theorem closed_closing : closing.Closed := trivial

end Closed

/-- The pieces of an element on its line. -/
def pieces : Element → List Piece
  | opening attributes => [⟨inside "svg" attributes, ['\n']⟩]
  | shape name attributes => [⟨inside name attributes ++ ['/'], ['\n']⟩]
  | text attributes content =>
    [⟨inside "text" attributes, escape content.toList⟩, ⟨"/text".toList, ['\n']⟩]
  | closing => [⟨"/svg".toList, ['\n']⟩]

/-- What an element holds. -/
def contents : Element → List String
  | text _ content => [content]
  | _ => []

/-- An element without what it holds. -/
def hollow : Element → Element
  | text attributes _ => text attributes ""
  | e => e

end Element

theorem tag_append (name : String) (attributes : List Attribute) (ending rest : List Char) :
    tag name attributes ending ++ rest = '<' :: (inside name attributes ++ (ending ++ rest)) := by
  simp only [tag, inside, List.append_assoc, List.cons_append, List.nil_append]

theorem not_mem_inside {name : String} {attributes : List Attribute} (named : IsName name)
    (closed : ∀ a ∈ attributes, a.Closed) : '>' ∉ inside name attributes := by
  rw [inside, List.mem_append, List.mem_flatMap]
  rintro (shown | ⟨a, member, shown⟩)
  · exact (named _ shown).1 rfl
  · obtain ⟨free, plain⟩ := closed a member
    simp [Attribute.render, free, plain] at shown

/-- The name of a tag ends where its attributes begin, or at a slash. -/
theorem name_inside {name : String} (named : IsName name) (attributes : List Attribute)
    {ending : List Char} (ends : ending = [] ∨ ending = ['/']) (text : List Char) :
    (Piece.mk (inside name attributes ++ ending) text).name = name.toList := by
  have within : ∀ c ∈ name.toList, (decide (c ≠ ' ') && decide (c ≠ '/')) = true := by
    intro c member
    simp [named c member]
  unfold Piece.name
  rw [inside, List.append_assoc, List.takeWhile_append_of_pos within]
  cases attributes with
  | nil => rcases ends with rfl | rfl <;> simp
  | cons a attributes => simp [Attribute.render]

/-- Every element is written from its tag on. -/
theorem beginsTag_render (elements : List Element) : BeginsTag (render elements) := by
  cases elements with
  | nil => exact nofun
  | cons e elements =>
    intro c first
    cases e <;> exact (Option.some.inj first).symm

theorem pieces_element {e : Element} (closed : e.Closed) {rest : List Char}
    (begins : BeginsTag rest) : pieces (e.render ++ rest) = e.pieces ++ pieces rest := by
  have newline : '<' ∉ ['\n'] := by decide
  cases e with
  | opening attributes =>
    have signs := not_mem_inside isName_svg closed
    show pieces (tag "svg" attributes ['>', '\n'] ++ rest) = _
    rw [tag_append]
    exact pieces_of_tag signs newline begins
  | shape name attributes =>
    obtain ⟨⟨named, -⟩, closed⟩ := closed
    have signs : '>' ∉ inside name attributes ++ ['/'] := by
      simp [not_mem_inside named closed]
    have step := pieces_of_tag signs newline begins
    rw [List.append_assoc] at step
    show pieces (tag name attributes ['/', '>', '\n'] ++ rest) = _
    rw [tag_append]
    exact step
  | text attributes content =>
    have signs := not_mem_inside isName_text closed
    have free := not_mem_escape content.toList '<' (by decide)
    have last := pieces_of_tag (show '>' ∉ "/text".toList by decide) newline begins
    have ends : BeginsTag ("</text>\n".toList ++ rest) := by
      rintro c ⟨⟩
      rfl
    show pieces ((tag "text" attributes ['>'] ++ escape content.toList ++ _) ++ rest) = _
    rw [List.append_assoc, List.append_assoc, tag_append "text" attributes]
    refine (pieces_of_tag signs free ends).trans ?_
    exact congrArg (_ :: ·) last
  | closing =>
    exact pieces_of_tag (show '>' ∉ "/svg".toList by decide) newline begins

/-! ## Documents -/

section Documents

variable {elements others : List Element}

/-- The pieces of a document are those of its elements, one after the other. -/
theorem pieces_render (closed : ∀ e ∈ elements, e.Closed) :
    pieces (render elements) = elements.flatMap Element.pieces := by
  induction elements with
  | nil =>
    rw [render, List.flatMap_nil, List.flatMap_nil, pieces]
    rfl
  | cons e elements ih =>
    obtain ⟨here, behind⟩ := List.forall_mem_cons.mp closed
    have first : render (e :: elements) = e.render ++ render elements := List.flatMap_cons
    rw [first, pieces_element here (beginsTag_render elements), ih behind, List.flatMap_cons]

/-- Free text has no influence on tags. -/
theorem tags_hollow (e : Element) :
    e.hollow.pieces.map Piece.tag = e.pieces.map Piece.tag := by
  cases e <;> rfl

theorem tags_render (closed : ∀ e ∈ elements, e.Closed) :
    tags (render elements) =
      (elements.map Element.hollow).flatMap fun e => e.pieces.map Piece.tag := by
  rw [tags, pieces_render closed, List.map_flatMap, List.flatMap_map]
  simp only [tags_hollow]

/-- Documents that differ in free text alone have the same tags. -/
theorem tags_render_eq (closed : ∀ e ∈ elements, e.Closed) (others_closed : ∀ e ∈ others, e.Closed)
    (same : elements.map Element.hollow = others.map Element.hollow) :
    tags (render elements) = tags (render others) := by
  rw [tags_render closed, tags_render others_closed, same]

/-- Only the first tag of a text element opens one. -/
theorem filter_pieces {e : Element} (closed : e.Closed) :
    (e.pieces.filter fun p => p.name = "text".toList).map Piece.text =
      e.contents.map fun content => escape content.toList := by
  cases e with
  | opening attributes =>
    have name := name_inside isName_svg attributes (Or.inl rfl) ['\n']
    rw [List.append_nil] at name
    rw [Element.pieces, List.filter_cons_of_neg]
    · rfl
    · rw [name]
      decide
  | shape name attributes =>
    obtain ⟨⟨named, other⟩, -⟩ := closed
    have name := name_inside named attributes (Or.inr rfl) ['\n']
    rw [Element.pieces, List.filter_cons_of_neg]
    · rfl
    · intro same
      exact other (String.toList_inj.mp (name.symm.trans (of_decide_eq_true same)))
  | text attributes content =>
    have name := name_inside isName_text attributes (Or.inl rfl)
      (escape content.toList)
    rw [List.append_nil] at name
    rw [Element.pieces, List.filter_cons_of_pos]
    · rfl
    · exact decide_eq_true name
  | closing => rfl

/-- The text elements of a document hold what they are to hold, escaped. -/
theorem textContents_render (closed : ∀ e ∈ elements, e.Closed) :
    textContents (render elements) =
      (elements.flatMap Element.contents).map fun content => escape content.toList := by
  rw [textContents, pieces_render closed, List.filter_flatMap, List.map_flatMap, List.map_flatMap]
  exact List.flatMap_congr fun e member => filter_pieces (closed e member)

end Documents

end Svg

end BenchCampaign
