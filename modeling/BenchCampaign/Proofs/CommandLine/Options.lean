import BenchCampaign.CommandLine.Options
import Mathlib.Logic.Basic

/-!
# Options that are read

Reading a command line only adds to the options that are given already, none of them a second
time, and none without a value that its declaration accepts.  So an option that the command line
does not give can be given in front of it, and all else is read as before.

* `Options.readFrom_cases`: what reading comes to at the next argument.
* `Options.subset_of_readFrom`: options that are given stay given.
* `Options.readFrom_cons`: an option more in front of a command line.
* `Options.exists_inquiry_of_readFrom`: a reading that ends with a question has come to one.
* `Options.Admits`, `Options.admits_of_readFrom`: options that are given are declared, with values
  that they take.
-/

namespace BenchCampaign

namespace CommandLine

namespace Options

/-! ## Adding -/

section Add

variable {d : Declaration} {value : String} {given out : Given} {e : String × String}

theorem eq_append_of_add (added : add given d value = .ok out) :
    out = given ++ [(d.name, value)] := by
  unfold add at added
  split at added
  · cases added
  · split at added
    · split at added
      · exact (Except.ok.inj added).symm
      · cases added
    · exact (Except.ok.inj added).symm

/-- An option can be added behind another one, if that is not the same. -/
theorem add_cons (other : d.name ≠ e.1) (added : add given d value = .ok out) :
    add (e :: given) d value = .ok (e :: out) := by
  have front : ((e :: given).any fun g => decide (g.1 = d.name)) =
      given.any fun g => decide (g.1 = d.name) := by
    simp [other.symm]
  unfold add at added ⊢
  rw [front]
  split at added
  · cases added
  · next free =>
    rw [if_neg free]
    split at added
    · next accepts takes =>
      split at added
      · next accepted =>
        cases added
        simp [accepted]
      · cases added
    · next takes =>
      cases added
      rfl

theorem exists_of_bind_add {next : Given → Except Refusal Given}
    (read : (add given d value).bind next = .ok out) :
    add given d value = .ok (given ++ [(d.name, value)]) ∧
      next (given ++ [(d.name, value)]) = .ok out := by
  cases added : add given d value with
  | error refusal =>
    rw [added] at read
    cases read
  | ok more =>
    cases eq_append_of_add added
    rw [added] at read
    exact ⟨rfl, read⟩

/-- An option that cannot be added is no question. -/
theorem add_ne_inquiry (given : Given) (d : Declaration) (value : String) :
    add given d value ≠ .error .inquiry := by
  unfold add
  split
  · nofun
  · split
    · split <;> nofun
    · nofun

/-- An option that is added takes its value. -/
theorem accepts_of_add (added : add given d value = .ok out) :
    ∀ accepts ∈ d.accepts, accepts value = true := by
  intro accepts takes
  unfold add at added
  rw [Option.mem_def.mp takes] at added
  split at added
  · cases added
  · dsimp only at added
    split at added
    · assumption
    · cases added

end Add

/-! ## Reading -/

/-- An argument can only begin options that are declared. -/
theorem mem_declared_of_opening {o : Options} {argument : String} {d : Declaration}
    {attached : Option String} (opens : o.opening argument = .option d attached) :
    d ∈ o.declared := by
  unfold opening at opens
  split at opens
  · cases opens
  · unfold ofName at opens
    dsimp only at opens
    split at opens
    next found =>
      cases opens
      exact List.mem_of_find?_eq_some found
    next => rcases ite_eq_iff.mp opens with ⟨-, none⟩ | ⟨-, none⟩ <;> cases none
  · unfold ofLetter at opens
    split at opens
    next found =>
      split at opens <;> cases opens <;> exact List.mem_of_find?_eq_some found
    next => rcases ite_eq_iff.mp opens with ⟨-, none⟩ | ⟨-, none⟩ <;> cases none
  · cases opens

/-- Reading ends at once, well or not, or it adds an option and goes on behind it; which of these
depends on the arguments alone. -/
theorem readFrom_cases (o : Options) (arguments : List String) :
    (∀ given, o.readFrom arguments given = .ok given) ∨
    (∃ refusal, (refusal = .inquiry → ∃ a ∈ arguments, o.opening a = .inquiry) ∧
      ∀ given, o.readFrom arguments given = .error refusal) ∨
    ∃ d ∈ o.declared, ∃ value rest, rest <:+ arguments ∧ rest.length < arguments.length ∧
      ∀ given, o.readFrom arguments given = (add given d value).bind (o.readFrom rest) := by
  cases arguments with
  | nil => exact Or.inl fun given => by rw [readFrom]
  | cons argument rest =>
    cases opening : o.opening argument with
    | inquiry =>
      refine Or.inr (Or.inl ⟨.inquiry, fun _ => ⟨argument, List.mem_cons_self, opening⟩,
        fun given => ?_⟩)
      simp only [readFrom, opening]
    | other =>
      refine Or.inr (Or.inl ⟨.usage, nofun, fun given => ?_⟩)
      simp only [readFrom, opening]
    | finish =>
      by_cases last : rest.isEmpty = true
      · refine Or.inl fun given => ?_
        simp only [readFrom, opening, last, if_true]
      · refine Or.inr (Or.inl ⟨.usage, nofun, fun given => ?_⟩)
        simp only [readFrom, opening, last]
        rfl
    | option d attached =>
      have declared := mem_declared_of_opening opening
      cases takes : d.accepts with
      | none =>
        cases attached with
        | none =>
          refine Or.inr (Or.inr ⟨d, declared, "", rest, List.suffix_cons argument rest,
            Nat.lt_succ_self _, fun given => ?_⟩)
          simp only [readFrom, opening, takes]
        | some value =>
          refine Or.inr (Or.inl ⟨.usage, nofun, fun given => ?_⟩)
          simp only [readFrom, opening, takes]
      | some accepts =>
        cases attached with
        | some value =>
          refine Or.inr (Or.inr ⟨d, declared, value, rest, List.suffix_cons argument rest,
            Nat.lt_succ_self _, fun given => ?_⟩)
          simp only [readFrom, opening, takes]
        | none =>
          cases rest with
          | nil =>
            refine Or.inr (Or.inl ⟨.usage, nofun, fun given => ?_⟩)
            simp only [readFrom, opening, takes]
          | cons value rest =>
            by_cases can : canBeValue value = true
            · have behind : rest <:+ argument :: value :: rest :=
                (List.suffix_cons value rest).trans (List.suffix_cons argument _)
              have less : rest.length < (argument :: value :: rest).length := by
                simp only [List.length_cons]
                omega
              refine Or.inr (Or.inr ⟨d, declared, value, rest, behind, less, fun given => ?_⟩)
              simp only [readFrom, opening, takes, can, if_true]
            · refine Or.inr (Or.inl ⟨.usage, nofun, fun given => ?_⟩)
              simp only [readFrom, opening, takes, can]
              rfl

/-- Options that are given stay given. -/
theorem subset_of_readFrom {o : Options} {arguments : List String} {given out : Given}
    (read : o.readFrom arguments given = .ok out) : given ⊆ out := by
  rcases o.readFrom_cases arguments with
    ends | ⟨refusal, -, refused⟩ | ⟨d, -, value, rest, -, less, goes⟩
  · rw [ends] at read
    cases read
    exact List.Subset.refl _
  · rw [refused] at read
    cases read
  · rw [goes] at read
    obtain ⟨-, behind⟩ := exists_of_bind_add read
    exact List.Subset.trans (List.subset_append_left given _) (subset_of_readFrom behind)
termination_by arguments.length

/-- An option that is not given can be given in front. -/
theorem readFrom_cons {o : Options} {arguments : List String} {given out : Given}
    {e : String × String} (read : o.readFrom arguments given = .ok out)
    (other : ∀ g ∈ out, g.1 ≠ e.1) :
    o.readFrom arguments (e :: given) = .ok (e :: out) := by
  rcases o.readFrom_cases arguments with
    ends | ⟨refusal, -, refused⟩ | ⟨d, -, value, rest, -, less, goes⟩
  · rw [ends] at read ⊢
    cases read
    rfl
  · rw [refused] at read
    cases read
  · rw [goes] at read ⊢
    obtain ⟨added, behind⟩ := exists_of_bind_add read
    have kept : (d.name, value) ∈ out :=
      subset_of_readFrom behind (List.mem_append_right given List.mem_cons_self)
    rw [add_cons (other _ kept) added]
    exact readFrom_cons behind other
termination_by arguments.length

/-- A reading that ends with a question has come to one. -/
theorem exists_inquiry_of_readFrom {o : Options} {arguments : List String} {given : Given}
    (asked : o.readFrom arguments given = .error .inquiry) :
    ∃ a ∈ arguments, o.opening a = .inquiry := by
  rcases o.readFrom_cases arguments with
    ends | ⟨refusal, asks, refused⟩ | ⟨d, -, value, rest, behind, less, goes⟩
  · rw [ends] at asked
    cases asked
  · rw [refused] at asked
    cases asked
    exact asks rfl
  · rw [goes] at asked
    cases added : add given d value with
    | error refusal =>
      rw [added] at asked
      cases asked
      exact absurd added (add_ne_inquiry given d value)
    | ok more =>
      rw [added] at asked
      obtain ⟨a, member, opens⟩ := exists_inquiry_of_readFrom asked
      exact ⟨a, behind.subset member, opens⟩
termination_by arguments.length

/-! ## Values -/

/-- Options that are all declared, each with a value that its declaration accepts. -/
def Admits (o : Options) (given : Given) : Prop :=
  ∀ g ∈ given, ∃ d ∈ o.declared, d.name = g.1 ∧ ∀ accepts ∈ d.accepts, accepts g.2 = true

/-- Reading goes on from options that are admitted to such options. -/
theorem admits_of_readFrom {o : Options} {arguments : List String} {given out : Given}
    (read : o.readFrom arguments given = .ok out) (admits : o.Admits given) : o.Admits out := by
  rcases o.readFrom_cases arguments with
    ends | ⟨refusal, -, refused⟩ | ⟨d, declared, value, rest, -, less, goes⟩
  · rw [ends] at read
    cases read
    exact admits
  · rw [refused] at read
    cases read
  · rw [goes] at read
    obtain ⟨added, behind⟩ := exists_of_bind_add read
    have last : ∀ g ∈ [(d.name, value)], ∃ d' ∈ o.declared, d'.name = g.1 ∧
        ∀ accepts ∈ d'.accepts, accepts g.2 = true := by
      rw [List.forall_mem_singleton]
      exact ⟨d, declared, rfl, accepts_of_add added⟩
    exact admits_of_readFrom behind (List.forall_mem_append.mpr ⟨admits, last⟩)
termination_by arguments.length

/-- The value of an option is one that its declaration accepts. -/
theorem Admits.value?_accepted {o : Options} {given : Given} (admits : o.Admits given)
    {name value : String} (found : given.value? name = some value) :
    ∃ d ∈ o.declared, d.name = name ∧ ∀ accepts ∈ d.accepts, accepts value = true := by
  obtain ⟨⟨n, v⟩, entry, rfl⟩ := Option.map_eq_some_iff.mp found
  obtain rfl : n = name := by simpa using List.find?_some entry
  exact admits (n, v) (List.mem_of_find?_eq_some entry)

end Options

end CommandLine

end BenchCampaign
