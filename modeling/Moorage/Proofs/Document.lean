import Mathlib
import Moorage.Document
import Moorage.Proofs.Fold
import Moorage.Proofs.Path

/-!
# `Moorage.Proofs.Document`: a file is its text against its directory

`Document.load` reads a text against a directory, and what it refuses is always the
document (`kind_of_load`). `Document.loadFile` adds the reading of the file and the way to
its directory. The directory is that of the path, taken from the working directory where the path is
relative, and it is worked out after the file was read. So a file that cannot be read is told before
a directory that there is not.

The working directory is an absolute path, and the contents of the file are text. Both are assumed:
the one is so on any machine, and what is no text is refused before there is a document.

* `loadFile_eq_load`: with directories in the path, the file is its text against them. The
  bare name of a file in the working directory has no directory in it, not even that of one
  dot, and is refused after it was read.
-/

set_option autoImplicit false

namespace Moorage.Document

/-- What is no document is refused as a configuration, however it fails to be one. The parser, the
shape of the document and each declaration have failures of their own. -/
theorem kind_of_read {text : String} {error : Error} (h : read text = .error error) :
    error.kind = .config := by
  unfold read at h
  repeat' split at h
  all_goals cases h
  all_goals rfl

/-- A declaration that makes no resource is refused as a configuration. Its value does not have
the shape of its type, and the failure names the declaration. -/
theorem kind_of_resource {base : String} {d : Declaration} {error : Error}
    (h : resource base d = .error error) : error.kind = .config := by
  unfold resource at h
  split at h
  · cases h
    rfl
  · cases h

/-- A resource that is declared twice is refused as a configuration. The failure names its
reference. -/
theorem kind_of_add {registry : Registry} {r : Resource} {error : Error}
    (h : registry.add r = .error error) : error.kind = .config := by
  unfold Registry.add at h
  split at h
  · cases h
    rfl
  · cases h

/-- Whatever is refused of a text is its fault as a document. Failures of the file are of another
kind, so the two can be told apart. -/
theorem kind_of_load {text base : String} {error : Error} (h : load text base = .error error) :
    error.kind = .config := by
  rcases Except.bind_eq_error_iff.mp h with hread | ⟨declarations, _, hfold⟩
  · exact kind_of_read hread
  · refine Except.error_of_foldlM (P := (·.kind = .config)) (fun d _ registry e hstep => ?_) hfold
    rcases Except.bind_eq_error_iff.mp hstep with hresource | ⟨r, _, hrest⟩
    · exact kind_of_resource hresource
    · rcases Except.bind_eq_error_iff.mp hrest with hadd | ⟨_, _, hnone⟩
      · exact kind_of_add hadd
      · cases hnone

/-- A file that could be read is its text against its directory. The directory is taken from the
path as it was given, and made absolute against the working directory. -/
theorem loadFile_of_some {cwd path text base : String} {contents : ByteArray}
    (htext : Text.Utf8.decode contents = .ok text)
    (hbase : Path.absolute? cwd (Path.parent path) = some base) :
    loadFile cwd path (.ok contents) = load text base := by
  simp only [loadFile, Except.mapError, htext, hbase, bind, Except.bind]

/-- A file whose directory has no absolute form is refused after it was read. Only the empty path
has none, and it comes from a path without a slash. -/
theorem loadFile_of_none {cwd path text : String} {contents : ByteArray}
    (htext : Text.Utf8.decode contents = .ok text)
    (hnone : Path.absolute? cwd (Path.parent path) = none) :
    loadFile cwd path (.ok contents) = .error (.io (Path.parent path) .emptyPath) := by
  simp only [loadFile, Except.mapError, htext, hnone, bind, Except.bind]

/-- What becomes of a file that could be read. With directories in its path, it is its text
against their absolute form, and only the document can be at fault. A bare name leads to no
directory, whatever the file holds. -/
theorem loadFile_eq_load {cwd path text : String} {contents : ByteArray}
    (hcwd : Path.isAbsolute cwd = true) (hpath : Path.EndsInName path)
    (htext : Text.Utf8.decode contents = .ok text) :
    ('/' ∈ path.toList →
      loadFile cwd path (.ok contents) = load text (Path.directory cwd path) ∧
      (∀ error, loadFile cwd path (.ok contents) = .error error → error.kind = .config) ∧
      Path.isAbsolute (Path.directory cwd path) = true ∧
      Path.segments (Path.directory cwd path)
        = (if Path.isAbsolute path then [] else Path.segments cwd)
          ++ (Path.segments path).dropLast) ∧
    ('/' ∉ path.toList → loadFile cwd path (.ok contents) = .error (.io "" .emptyPath)) := by
  constructor
  · intro hslash
    have hload : loadFile cwd path (.ok contents) = load text (Path.directory cwd path) :=
      loadFile_of_some htext (Path.absolute?_parent hpath hslash)
    refine ⟨hload, fun error herror => kind_of_load (hload.symm.trans herror), ?_, ?_⟩
    · exact Path.isAbsolute_directory hcwd path
    · exact Path.segments_directory cwd path
  · intro hslash
    -- The directory is the empty path, and the empty path has no absolute form.
    have hparent : Path.parent path = "" := (hpath.isName hslash).parent_eq
    have hnone : Path.absolute? cwd (Path.parent path) = none := by
      rw [hparent]
      rfl
    rw [loadFile_of_none htext hnone, hparent]

/-- A file two steps below the working directory is its text against the one directory that
has a name. -/
theorem loadFile_eq_load_below :
    Path.isAbsolute "/work" = true ∧ Path.EndsInName "envs//./berth.yaml" ∧
    Text.Utf8.decode "resources: []".toUTF8 = .ok "resources: []" ∧
    loadFile "/work" "envs//./berth.yaml" (.ok "resources: []".toUTF8)
      = load "resources: []" "/work/envs" := by
  have hcwd : Path.isAbsolute "/work" = true := by decide
  have hpath : Path.EndsInName "envs//./berth.yaml" := by decide
  have htext : Text.Utf8.decode "resources: []".toUTF8 = .ok "resources: []" := by cbv
  have hdirectory : Path.directory "/work" "envs//./berth.yaml" = "/work/envs" := by decide
  obtain ⟨hload, -⟩ := (loadFile_eq_load hcwd hpath htext).1 (by decide)
  rw [hdirectory] at hload
  exact ⟨hcwd, hpath, htext, hload⟩

/-- An empty document declares nothing, and is read behind a dot. By its bare name it is read
and then refused. -/
theorem loadFile_bareName :
    load "" "/work" = .ok Registry.empty ∧
    loadFile "/work" "./berth.yaml" (.ok "".toUTF8) = .ok Registry.empty ∧
    loadFile "/work" "berth.yaml" (.ok "".toUTF8) = .error (.io "" .emptyPath) := by
  have hload : load "" "/work" = .ok Registry.empty := by cbv
  have htext : Text.Utf8.decode "".toUTF8 = .ok "" := by cbv
  have hdot : Path.absolute? "/work" (Path.parent "./berth.yaml") = some "/work" := by decide
  have hbare : Path.absolute? "/work" (Path.parent "berth.yaml") = none := by decide
  exact ⟨hload, (loadFile_of_some htext hdot).trans hload, loadFile_of_none htext hbare⟩

end Moorage.Document
