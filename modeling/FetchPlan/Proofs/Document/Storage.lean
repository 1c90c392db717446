import FetchPlan.Document.Load
import FetchPlan.Proofs.Document.Writing

/-!
# Storage of files

What a program may rely on in surroundings that keep files: reading changes nothing and finds
what is there, and a file is written whole or not at all. A store of files is of this kind,
whatever paths lead to a file.
-/

namespace FetchPlan

/-- Reading changes nothing, and this is what the input stream gives, or why it gives
nothing. -/
structure Host.Steady {σ : Type} (host : Host (StateM σ)) (input : Except FileFault ByteArray) :
    Prop where
  input : ∀ s, host.input s = (input, s)
  unchanged : ∀ s path, (host.read path s).2 = s

/-! ## Surroundings that keep files -/

/-- How the states of some surroundings keep files. A file is known by more than its paths,
since several of them may name it. -/
structure Storage (σ ι : Type) where
  /-- The file that a path names. -/
  named : σ → String → Option ι
  content : σ → ι → Option ByteArray

namespace Storage

variable {σ ι : Type} (st : Storage σ ι)

/-- The path names a file with these bytes. -/
def Holds (s : σ) (path : String) (bytes : ByteArray) : Prop :=
  ∃ file, st.named s path = some file ∧ st.content s file = some bytes

/-- From `s` to `s'` the file that the path names has got these bytes, and no other file is
changed or created. -/
def Writes (s s' : σ) (path : String) (bytes : ByteArray) : Prop :=
  ∃ file, st.named s' path = some file ∧ st.content s' file = some bytes ∧
    (∀ old, st.named s path = some old → old = file) ∧
    ∀ other, other ≠ file → st.content s' other = st.content s other

/-- What is asked of surroundings: reading changes nothing, what is read of a file is what it
holds, and a file is written whole or nothing is changed. Reading and writing may fail. -/
structure Serves (host : Host (StateM σ)) (input : Except FileFault ByteArray) : Prop
    extends Host.Steady host input where
  holds : ∀ s path bytes, (host.read path s).1 = .ok bytes → st.Holds s path bytes
  fails : ∀ s path bytes fault, (host.write path bytes s).1 = .error fault →
    (host.write path bytes s).2 = s
  writes : ∀ s path bytes, (host.write path bytes s).1 = .ok () →
    st.Writes s (host.write path bytes s).2 path bytes

variable {st} in
theorem Holds.unique {s : σ} {path : String} {bytes bytes' : ByteArray}
    (h : st.Holds s path bytes) (h' : st.Holds s path bytes') : bytes = bytes' := by
  obtain ⟨file, hnamed, hcontent⟩ := h
  obtain ⟨file', hnamed', hcontent'⟩ := h'
  obtain rfl := Option.some.inj (hnamed.symm.trans hnamed')
  exact Option.some.inj (hcontent.symm.trans hcontent')

end Storage

/-! ## A store of files -/

namespace Files

/-- Files are known by their locations. -/
def storage : Storage Files Location := ⟨named, content?⟩

section

variable (input : Except FileFault ByteArray) (explain : String → String)

theorem write_host (files : Files) (path : String) (bytes : ByteArray) :
    (Files.host input explain).write path bytes files =
      match files.write path bytes with
      | .ok files' => (.ok (), files')
      | .error fault => (.error fault, files) := by
  show (match files.write path bytes with
    | .ok files' => _
    | .error fault => _ : StateM Files (Except FileFault Unit)) files = _
  cases files.write path bytes <;> rfl

theorem serves : storage.Serves (host input explain) input where
  input _ := rfl
  unchanged _ _ := rfl
  holds files path bytes h := read_eq_ok h
  fails := by
    intro files path bytes fault h
    rw [write_host] at h ⊢
    cases hwrite : files.write path bytes with
    | ok files' =>
      rw [hwrite] at h
      cases h
    | error _ => rfl
  writes := by
    intro files path bytes h
    rw [write_host] at h ⊢
    cases hwrite : files.write path bytes with
    | error _ =>
      rw [hwrite] at h
      cases h
    | ok files' =>
      obtain ⟨l, htarget, rfl⟩ := write_eq_ok hwrite
      obtain ⟨_, _, _, t⟩ := targets_of_target htarget
      have hcontent : content? (files.put l (.file bytes)) l = some bytes :=
        content?_put_self t.no_directory
      refine ⟨l, named_eq_some_iff.2 ⟨locate_put_target htarget, ?_⟩, hcontent,
        fun old hold => named_of_target htarget hold, fun other hne => content?_put_of_ne hne _⟩
      rw [hcontent]
      rfl

end

end Files

end FetchPlan
