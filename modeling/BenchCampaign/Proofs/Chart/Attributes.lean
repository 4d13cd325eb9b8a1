import BenchCampaign.Proofs.Chart.Markup
import Mathlib.Data.List.TakeWhile

/-!
# The attributes of a document

In a tag, an attribute has a blank before it; its name goes up to an equals sign, and its value
stands between quotation marks.  Read like that, the tags of a document give the attributes of its
elements, where no name has an equals sign and no value a quotation mark.

* `Svg.readAttributes`, `Svg.attributes`: the attributes of a tag and of a document.
* `Svg.attributes_render`: the attributes of a document are those of its elements.
-/

namespace BenchCampaign

namespace Svg

/-! ## Reading -/

/-- The attributes of a tag. -/
def readAttributes (tag : List Char) : List Attribute :=
  match _begins : tag.dropWhile (· ≠ ' ') with
  | [] => []
  | _ :: named =>
    let value := (named.dropWhile (· ≠ '=')).drop 2
    ⟨String.ofList (named.takeWhile (· ≠ '=')), String.ofList (value.takeWhile (· ≠ '"'))⟩ ::
      readAttributes ((value.dropWhile (· ≠ '"')).drop 1)
termination_by tag.length
decreasing_by
  have left := (List.dropWhile_sublist (l := tag) (p := (· ≠ ' '))).length_le
  have right := (List.dropWhile_sublist (l := value) (p := (· ≠ '"'))).length_le
  have middle := (List.dropWhile_sublist (l := named) (p := (· ≠ '='))).length_le
  rw [_begins, List.length_cons] at left
  simp only [value, List.length_drop] at right ⊢
  omega

/-- The attributes of the tags of a document. -/
def attributes (document : List Char) : List Attribute := (tags document).flatMap readAttributes

/-- An attribute of which the name ends at the equals sign and the value at the mark. -/
def Attribute.Readable (a : Attribute) : Prop := '=' ∉ a.name.toList ∧ '"' ∉ a.value.toList

section Stops

variable {c : Char} {text : List Char}

theorem takeWhile_stop (free : c ∉ text) (rest : List Char) :
    (text ++ c :: rest).takeWhile (· ≠ c) = text := by
  rw [List.takeWhile_append_of_pos (ne_of_notMem free)]
  simp

theorem dropWhile_stop (free : c ∉ text) (rest : List Char) :
    (text ++ c :: rest).dropWhile (· ≠ c) = c :: rest := by
  rw [List.dropWhile_append_of_pos (ne_of_notMem free)]
  simp

theorem dropWhile_none (free : c ∉ text) : text.dropWhile (· ≠ c) = [] :=
  List.dropWhile_eq_nil_iff.2 (ne_of_notMem free)

end Stops

/-! ## Tags -/

section Tags

variable {text ending : List Char} {attributes : List Attribute}

theorem readAttributes_none (plain : ' ' ∉ text) : readAttributes text = [] := by
  rw [readAttributes, dropWhile_none plain]

/-- Behind something without a blank, an attribute is read and what is behind it is left. -/
theorem readAttributes_cons {a : Attribute} (readable : a.Readable) (plain : ' ' ∉ text)
    (rest : List Char) :
    readAttributes (text ++ (a.render ++ rest)) = a :: readAttributes rest := by
  obtain ⟨named, quoted⟩ := readable
  have shape : text ++ (a.render ++ rest) =
      text ++ ' ' :: (a.name.toList ++ '=' :: '"' :: (a.value.toList ++ '"' :: rest)) := by
    simp [Attribute.render]
  rw [shape, readAttributes, dropWhile_stop plain]
  simp only [takeWhile_stop named, dropWhile_stop named, List.drop_succ_cons, List.drop_zero,
    takeWhile_stop quoted, dropWhile_stop quoted, String.ofList_toList]

/-- A tag is read as the attributes that it is written with. -/
theorem readAttributes_flatMap (readable : ∀ a ∈ attributes, a.Readable) (plain : ' ' ∉ text)
    (last : ' ' ∉ ending) :
    readAttributes (text ++ (attributes.flatMap Attribute.render ++ ending)) = attributes := by
  induction attributes generalizing text with
  | nil =>
    refine readAttributes_none ?_
    simp [plain, last]
  | cons a attributes ih =>
    obtain ⟨here, behind⟩ := List.forall_mem_cons.1 readable
    rw [List.flatMap_cons, List.append_assoc, readAttributes_cons here plain]
    exact congrArg (a :: ·) (ih behind (List.not_mem_nil (a := ' ')))

theorem readAttributes_inside {name : String} (named : IsName name)
    (readable : ∀ a ∈ attributes, a.Readable) (last : ' ' ∉ ending) :
    readAttributes (inside name attributes ++ ending) = attributes := by
  have plain : ' ' ∉ name.toList := fun blank => (named ' ' blank).2.1 rfl
  rw [inside, List.append_assoc]
  exact readAttributes_flatMap readable plain last

end Tags

/-! ## Documents -/

namespace Element

/-- The attributes of an element. -/
def attributes : Element → List Attribute
  | opening attributes | shape _ attributes | text attributes _ => attributes
  | closing => []

/-- Elements whose attributes all are as some property says. -/
def Every (p : Attribute → Prop) (e : Element) : Prop := ∀ a ∈ e.attributes, p a

section Every

variable {p : Attribute → Prop} {name content : String} {attributes : List Attribute}

@[simp]
theorem every_opening : (opening attributes).Every p ↔ ∀ a ∈ attributes, p a := Iff.rfl

@[simp]
theorem every_shape : (shape name attributes).Every p ↔ ∀ a ∈ attributes, p a := Iff.rfl

@[simp]
theorem every_text : (text attributes content).Every p ↔ ∀ a ∈ attributes, p a := Iff.rfl

@[simp]
theorem every_closing : closing.Every p := nofun

end Every

/-- The attributes of an element are read from its tags. -/
theorem flatMap_readAttributes {e : Element} (closed : e.Closed)
    (readable : e.Every Attribute.Readable) :
    (e.pieces.map Piece.tag).flatMap readAttributes = e.attributes := by
  cases e with
  | opening attributes =>
    have read := readAttributes_inside isName_svg readable (List.not_mem_nil (a := ' '))
    rw [List.append_nil] at read
    exact (List.flatMap_singleton ..).trans read
  | shape name attributes =>
    obtain ⟨⟨named, -⟩, -⟩ := closed
    have read := readAttributes_inside named readable (show ' ' ∉ ['/'] by decide)
    exact (List.flatMap_singleton ..).trans read
  | text attributes content =>
    have read := readAttributes_inside isName_text readable (List.not_mem_nil (a := ' '))
    have closes : readAttributes "/text".toList = [] := readAttributes_none (by decide)
    rw [List.append_nil] at read
    change readAttributes (inside "text" attributes) ++ (readAttributes "/text".toList ++ []) = _
    rw [closes, List.append_nil, List.append_nil]
    exact read
  | closing =>
    have closes : readAttributes "/svg".toList = [] := readAttributes_none (by decide)
    exact (List.flatMap_singleton ..).trans closes

end Element

/-- The attributes of a document are those of its elements, one after the other. -/
theorem attributes_render {elements : List Element} (closed : ∀ e ∈ elements, e.Closed)
    (readable : ∀ e ∈ elements, e.Every Attribute.Readable) :
    attributes (render elements) = elements.flatMap Element.attributes := by
  rw [attributes, tags, pieces_render closed, List.map_flatMap, List.flatMap_assoc]
  exact List.flatMap_congr fun e member =>
    Element.flatMap_readAttributes (closed e member) (readable e member)

end Svg

end BenchCampaign
