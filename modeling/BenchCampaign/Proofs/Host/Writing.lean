import BenchCampaign.Host.FileTree
import Mathlib.Data.List.Basic

/-!
# What a write changes

A write puts a file at one location, where no directory was.  So it changes neither what lies at
another location nor where a path leads that does not lead to the file: nothing of the tree can be
lost by it, nor be found under another path than before.

* `FileTree.entry?_put`, `FileTree.entry?_put_of_ne`: what lies where after something was put.
* `Host.foldlM_step_congr`: paths in trees that differ at one location only.
* `Host.WrittenAt`: a host before and after a write.
* `Host.writtenAt_of_write`: every write that succeeds is one.
-/

namespace BenchCampaign

/-- What is written takes the place of no directory, and is none. -/
theorem Entry.written?_cases {content : List UInt8} {old : Option Entry} {e : Entry}
    (written : written? content old = .ok e) :
    (∃ d, old = some (.device d) ∧ e = .device d) ∨
      ∃ mode, (old = none ∨ ∃ f, old = some (.file f)) ∧ e = .file ⟨mode, .bytes content⟩ := by
  unfold written? at written
  split at written
  · exact .inr ⟨_, .inl rfl, (Except.ok.inj written).symm⟩
  next f => exact .inr ⟨f.mode, .inr ⟨f, rfl⟩, (Except.ok.inj written).symm⟩
  · split at written
    · exact .inl ⟨_, rfl, (Except.ok.inj written).symm⟩
    · cases written
  next d _ => exact .inl ⟨d, rfl, (Except.ok.inj written).symm⟩
  · cases written

namespace FileTree

variable {t t' : FileTree} {l l' : Location} {e : Entry}

theorem entry?_put (below : l ≠ []) : FileTree.entry? (t.put l e) l = some e := by
  simp [put, entry?, below]

theorem entry?_put_of_ne (other : l' ≠ l) : FileTree.entry? (t.put l e) l' = t.entry? l' := by
  have kept : (fun old : Location × Entry => decide (decide (old.1 ≠ l) = true ∧
      decide (old.1 = l') = true)) = fun old => decide (old.1 = l') := by
    funext old
    by_cases same : old.1 = l' <;> simp [same, other]
  unfold entry? put
  rw [List.find?_cons_of_neg (by simpa using other.symm), List.find?_filter, kept]

/-- Two trees that have the same entries but at one location, where neither has a directory. -/
structure AgreeBut (t t' : FileTree) (l : Location) : Prop where
  entry?_eq : ∀ l', l' ≠ l → t'.entry? l' = t.entry? l'
  noDirectory : t.entry? l ≠ some .directory
  noDirectory' : t'.entry? l ≠ some .directory

theorem AgreeBut.symm (agree : AgreeBut t t' l) : AgreeBut t' t l :=
  ⟨fun l' other => (agree.entry?_eq l' other).symm, agree.noDirectory', agree.noDirectory⟩

theorem agreeBut_put {content : List UInt8}
    (written : Entry.written? content (t.entry? l) = .ok e) :
    l ≠ [] ∧ AgreeBut t (t.put l e) l := by
  have noDirectory : t.entry? l ≠ some .directory := by
    intro directory
    rw [directory] at written
    cases written
  have below : l ≠ [] := by
    rintro rfl
    exact noDirectory rfl
  refine ⟨below, fun l' other => entry?_put_of_ne other, noDirectory, ?_⟩
  rw [entry?_put below]
  intro same
  obtain ⟨d, -, rfl⟩ | ⟨mode, -, rfl⟩ := Entry.written?_cases written <;> cases same

end FileTree

namespace Host

/-! ## Paths in trees that differ at one location -/

section Paths

open FileTree

variable {t t' : FileTree} {l l₀ l₁ : Location} {name : List Char}

theorem directory_of_step (found : step t l₀ name = .ok l₁) :
    t.entry? l₀ = some .directory := by
  unfold step at found
  split at found
  · assumption
  · cases found

theorem step_congr (agree : AgreeBut t t' l) (there : l₁ = l → (t'.entry? l).isSome = true)
    (found : step t l₀ name = .ok l₁) : step t' l₀ name = .ok l₁ := by
  have directory := directory_of_step found
  have elsewhere : l₀ ≠ l := fun same => agree.noDirectory (same ▸ directory)
  have directory' : t'.entry? l₀ = some .directory := by
    rw [agree.entry?_eq l₀ elsewhere, directory]
  unfold step at found ⊢
  rw [directory] at found
  rw [directory']
  dsimp only at found ⊢
  by_cases stays : (decide (name = []) || decide (name = ['.'])) = true
  · rwa [if_pos stays] at found ⊢
  · rw [if_neg stays] at found ⊢
    by_cases up : name = ['.', '.']
    · rwa [if_pos up] at found ⊢
    · rw [if_neg up] at found ⊢
      split
      next long =>
        rw [if_pos long] at found
        cases found
      next short =>
        rw [if_neg short] at found
        split at found
        next stands =>
          have there' : (t'.entry? (l₀ ++ [String.ofList name])).isSome = true := by
            by_cases same : l₀ ++ [String.ofList name] = l
            · rw [same]
              exact there ((Except.ok.inj found).symm.trans same)
            · rwa [agree.entry?_eq _ same]
          rwa [if_pos there']
        next => cases found

/-- Where only the last name is missing, it is found once something has it. -/
theorem step_of_missing (agree : AgreeBut t t' (l₀ ++ [String.ofList name]))
    (there : (t'.entry? (l₀ ++ [String.ofList name])).isSome = true)
    (missing : step t l₀ name = .error .missing) :
    t.entry? (l₀ ++ [String.ofList name]) = none ∧
      step t' l₀ name = .ok (l₀ ++ [String.ofList name]) := by
  have elsewhere : l₀ ≠ l₀ ++ [String.ofList name] := by simp
  have same := agree.entry?_eq l₀ elsewhere
  unfold step at missing ⊢
  split at missing
  next directory =>
    rw [same, directory]
    dsimp only
    split at missing
    · cases missing
    next moves =>
      rw [if_neg moves]
      split at missing
      · cases missing
      next down =>
        rw [if_neg down]
        dsimp only at missing
        split at missing
        · cases missing
        next short =>
          rw [if_neg short]
          split at missing
          · cases missing
          next absent => exact ⟨Option.not_isSome_iff_eq_none.1 absent, if_pos there⟩
  next => cases missing

/-- A walk that does not end where trees differ leads to the same place in both, and so does one
that ends there if something is there. -/
theorem foldlM_step_congr (agree : AgreeBut t t' l) {names : List (List Char)}
    (there : l₁ = l → (t'.entry? l).isSome = true)
    (found : names.foldlM (step t) l₀ = .ok l₁) : names.foldlM (step t') l₀ = .ok l₁ := by
  induction names generalizing l₀ with
  | nil => exact found
  | cons name rest ih =>
    rw [List.foldlM_cons] at found ⊢
    cases first : step t l₀ name with
    | error fault =>
      rw [first] at found
      cases found
    | ok m =>
      rw [first] at found
      -- No walk goes on from where the trees differ.
      have there' : m = l → (t'.entry? l).isSome = true := by
        rintro rfl
        cases rest with
        | nil => exact there (Except.ok.inj found).symm
        | cons name' rest =>
          exfalso
          change (name' :: rest).foldlM (step t) m = .ok l₁ at found
          rw [List.foldlM_cons] at found
          cases next : step t m name' with
          | error fault =>
            rw [next] at found
            cases found
          | ok m' => exact agree.noDirectory (directory_of_step next)
      rw [step_congr agree there' first]
      exact ih found

end Paths

/-! ## Writing -/

variable {h after : Host} {path : String} {content : List UInt8} {l l' : Location}

/-- A host before and after bytes were written to a path, which leads to a location: a device
stays as it is there, else the bytes are there, and nothing is changed elsewhere. -/
structure WrittenAt (h after : Host) (path : String) (content : List UInt8) (l : Location) :
    Prop where
  resolve_path : after.resolve path = .ok l
  read_path : (∀ d, h.tree.entry? l ≠ some (.device d)) → after.read path = .ok content
  device : ∀ d, h.tree.entry? l = some (.device d) → after.tree.entry? l = some (.device d)
  entry?_location : ∀ l', l' ≠ l → after.tree.entry? l' = h.tree.entry? l'
  entry?_path : ∀ other, after.resolve other ≠ .ok l → after.entry? other = h.entry? other
  directory : after.directory = h.directory
  searchPath : after.searchPath = h.searchPath

theorem resolve_congr_of_agreeBut (agree : FileTree.AgreeBut h.tree after.tree l)
    (directory : after.directory = h.directory)
    (there : l' = l → (after.tree.entry? l).isSome = true) (leads : h.resolve path = .ok l') :
    after.resolve path = .ok l' := by
  unfold resolve at leads ⊢
  split at leads
  · cases leads
  · rw [start, directory]
    exact foldlM_step_congr agree there leads

/-- Where nothing is there yet, only the last name of a path was missing. -/
theorem resolveNew_of_missing (missing : h.resolve path = .error .missing)
    (leads : h.resolveNew path = .ok l) :
    pathFault? path = none ∧ ∃ front name l₀, Path.names path.toList = front ++ [name] ∧
      front.foldlM (step h.tree) (h.start path.toList) = .ok l₀ ∧
      l = l₀ ++ [String.ofList name] := by
  rw [resolveNew, missing] at leads
  dsimp only at leads
  split at leads
  · cases leads
  next sound =>
    refine ⟨sound, ?_⟩
    split at leads
    · cases leads
    next name last =>
      obtain ⟨front, names⟩ := List.getLast?_eq_some_iff.1 last
      rw [names, List.dropLast_concat] at leads
      cases walked : front.foldlM (step h.tree) (h.start path.toList) with
      | error fault =>
        rw [walked] at leads
        cases leads
      | ok l₀ =>
        rw [walked] at leads
        change (if name = [] then Except.error PathFault.isDirectory
          else .ok (l₀ ++ [String.ofList name])) = .ok l at leads
        split at leads
        · cases leads
        · exact ⟨front, name, l₀, names, walked, (Except.ok.inj leads).symm⟩

theorem foldlM_step_concat (t : FileTree) (l₀ : Location) (front : List (List Char))
    (name : List Char) :
    (front ++ [name]).foldlM (step t) l₀ = front.foldlM (step t) l₀ >>= fun l => step t l name := by
  simp only [List.foldlM_append, List.foldlM_cons, List.foldlM_nil, bind_pure]

/-- A path that leads nowhere leads to what was put where it would lead to. -/
theorem resolve_of_missing (missing : h.resolve path = .error .missing)
    (leads : h.resolveNew path = .ok l) (agree : FileTree.AgreeBut h.tree after.tree l)
    (directory : after.directory = h.directory)
    (there : (after.tree.entry? l).isSome = true) :
    h.tree.entry? l = none ∧ after.resolve path = .ok l := by
  obtain ⟨sound, front, name, l₀, names, walked, rfl⟩ := resolveNew_of_missing missing leads
  have elsewhere : l₀ ≠ l₀ ++ [String.ofList name] := by simp
  have last : step h.tree l₀ name = .error .missing := by
    rw [resolve, sound] at missing
    dsimp only at missing
    rw [names, foldlM_step_concat, walked] at missing
    exact missing
  obtain ⟨absent, found⟩ := step_of_missing agree there last
  refine ⟨absent, ?_⟩
  have walked' := foldlM_step_congr agree (fun same => (elsewhere same).elim) walked
  rw [resolve, sound, start, directory]
  dsimp only
  rw [names, foldlM_step_concat, ← start, walked']
  exact found

theorem write_eq_ok (written : h.write path content = .ok after) :
    ∃ l e, h.resolveNew path = .ok l ∧ Entry.written? content (h.tree.entry? l) = .ok e ∧
      after = { h with tree := h.tree.put l e } := by
  unfold write at written
  split at written
  · cases written
  next l leads =>
    split at written
    next e made => exact ⟨l, e, leads, made, (Except.ok.inj written).symm⟩
    · cases written

/-- **A write changes what lies at one location, and nothing else.** -/
theorem writtenAt_of_write (written : h.write path content = .ok after) :
    ∃ l, h.WrittenAt after path content l := by
  obtain ⟨l, e, leads, made, written⟩ := write_eq_ok written
  have directory : after.directory = h.directory := by rw [written]
  have tree : after.tree = h.tree.put l e := by rw [written]
  obtain ⟨below, agree⟩ := FileTree.agreeBut_put made
  have lies : after.tree.entry? l = some e := tree ▸ FileTree.entry?_put below
  have there : (after.tree.entry? l).isSome = true := by rw [lies]; rfl
  rw [← tree] at agree
  have found : after.resolve path = .ok l := by
    cases walked : h.resolve path with
    | ok l' =>
      rw [resolveNew, walked] at leads
      obtain rfl := Except.ok.inj leads
      exact resolve_congr_of_agreeBut agree directory (fun _ => there) walked
    | error fault =>
      cases fault with
      | missing => exact (resolve_of_missing walked leads agree directory there).2
      | _ =>
        rw [resolveNew, walked] at leads
        cases leads
  refine ⟨l, found, ?_, ?_, agree.entry?_eq, ?_, directory, by rw [written]⟩
  · intro noDevice
    obtain ⟨d, device, -⟩ | ⟨mode, -, rfl⟩ := Entry.written?_cases made
    · exact absurd device (noDevice d)
    · rw [read, found]
      dsimp only
      rw [lies]
      rfl
  · intro d device
    rw [device] at made
    obtain ⟨d', same, rfl⟩ | ⟨mode, none | ⟨f, same⟩, -⟩ := Entry.written?_cases made
    · rw [lies, same]
    · cases none
    · cases same
  · intro other elsewhere
    cases walked : after.resolve other with
    | ok l' =>
      have apart : l' ≠ l := by
        rintro rfl
        exact elsewhere walked
      have walked' : h.resolve other = .ok l' :=
        resolve_congr_of_agreeBut agree.symm directory.symm (fun same => (apart same).elim) walked
      unfold entry?
      rw [walked, walked']
      exact agree.entry?_eq l' apart
    | error fault =>
      cases walked' : h.resolve other with
      | ok l' =>
        have kept := resolve_congr_of_agreeBut agree directory (fun _ => there) walked'
        rw [walked] at kept
        cases kept
      | error fault' =>
        unfold entry?
        rw [walked, walked']

end Host

end BenchCampaign
