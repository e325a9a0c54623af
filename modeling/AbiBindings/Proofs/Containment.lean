import AbiBindings.Proofs.Constructs
import AbiBindings.Proofs.Contents
import AbiBindings.Settings.Reader

/-!
# Containment of the texts that the user chooses

The display name, the name of the file and the path stand inside comments, docstrings and a literal.
For each of these there is an exact condition under which it is not left. The name of the module is
an identifier and never does harm. The path is quoted, yet a carriage return stays as it is. The
display name and the name of the file are not quoted at all.
-/

namespace AbiBindings

open Julia Declaration

namespace Bindings.Source

variable (s : Source)

/-- Every comment is written as one line that begins with a number sign. -/
def CommentsContained (a : Artifact) : Prop :=
  ∀ text, comment text ∈ a.declarations → OneLine (comment text).render

/-- No docstring is ended or interpolated by its body. -/
def DocsContained (a : Artifact) : Prop :=
  ∀ text, doc text ∈ a.declarations → Docstring.Contained text.toList

/-- The first constant is the path of the library, and no line is broken in its literal. -/
def PathContained (a : Artifact) : Prop :=
  ∃ literal, (a.declarations.filterMap constant?).head? =
      some (s.settings.library.pathConstant, literal) ∧ Literal.Unbroken literal

theorem commentsContained_listing_iff (h : '\n' ∉ s.platform.timespec.name.toList) :
    CommentsContained ⟨s.listing⟩ ↔
      '\n' ∉ s.settings.output.fileName.toList ∧ '\n' ∉ s.settings.library.name.toList := by
  simp only [CommentsContained, oneLine_comment_iff, ← mem_comments_iff]
  exact s.newline_notMem_comments_iff h

theorem plain_documentedTexts :
    ∀ entry ∈ documentedTexts,
      Docstring.Plain entry.1.toList ∧ Docstring.Plain entry.2.toList := by
  decide +kernel

theorem contained_codeFunctionDoc_iff
    (hmodule : Docstring.Plain s.settings.library.juliaModule.toList) :
    Docstring.Contained s.codeFunctionDoc.toList ↔
      Docstring.Contained s.settings.library.name.toList := by
  simp only [codeFunctionDoc, String.toList_append]
  rw [List.append_assoc _ _ "type `T`.  An error is raised if `T` is not supported.".toList]
  refine Docstring.contained_between ?_ (by decide) _
  simp only [Docstring.plain_append]
  exact ⟨⟨⟨⟨⟨by decide, hmodule⟩, by decide⟩, by decide⟩, by decide⟩, by decide⟩

/-- The display name is in one docstring; the others hold only the name of the module. -/
theorem docsContained_listing_iff (h : isIdentifier s.settings.library.juliaModule = true) :
    DocsContained ⟨s.listing⟩ ↔ Docstring.Contained s.settings.library.name.toList := by
  have hmodule := Docstring.plain_of_isIdentifier h
  rw [← s.contained_codeFunctionDoc_iff hmodule]
  simp only [DocsContained, ← mem_docs_iff]
  rw [docs_listing, List.forall_mem_append, List.forall_mem_singleton]
  refine and_iff_right ?_
  intro text htext
  obtain ⟨entry, hentry, rfl⟩ := List.mem_map.mp htext
  obtain ⟨hname, hdoc⟩ := plain_documentedTexts entry hentry
  refine Docstring.Plain.contained ?_
  simp only [String.toList_append, Docstring.plain_append]
  exact ⟨⟨⟨⟨⟨by decide, hmodule⟩, by decide⟩, hname⟩, by decide⟩, hdoc⟩

theorem pathContained_listing_iff :
    s.PathContained ⟨s.listing⟩ ↔ '\r' ∉ s.settings.library.path.toList := by
  rw [← Literal.unbroken_quote_iff, PathContained, constants_listing, List.head?_cons]
  constructor
  · rintro ⟨literal, hliteral, hunbroken⟩
    obtain ⟨-, rfl⟩ := Prod.mk.inj (Option.some.inj hliteral)
    exact hunbroken
  · intro hunbroken
    exact ⟨_, rfl, hunbroken⟩

end Bindings.Source

namespace Settings

theorem isIdentifier_of_check {settings : Settings} (h : settings.check = .ok ()) :
    isIdentifier settings.library.juliaModule = true := by
  unfold check at h
  split at h
  · cases h
  · split at h
    · rename_i hidentifiers
      exact (Bool.and_eq_true_iff.mp hidentifiers).1
    · cases h

theorem check_of_parse {text : String} {settings : Settings}
    (h : parse text = .ok settings) : settings.check = .ok () := by
  unfold parse at h
  split at h
  · cases h
  · rename_i found _
    cases hcheck : found.check with
    | error e =>
      rw [hcheck] at h
      cases h
    | ok u =>
      rw [hcheck] at h
      cases h
      exact hcheck

end Settings

namespace Bindings.Source

/-- The exact conditions under which the texts of a settings file stay where they are placed, in the
file of an acceptable platform. -/
theorem contained_iff {text : String} {settings : Settings}
    (hparse : Settings.parse text = .ok settings) (types : Tao.ElementTypes) {p : Platform}
    (hwidths : p.checkWidths = .ok ()) (hname : '\n' ∉ p.timespec.name.toList) :
    ∃ a, artifact ⟨types, p, settings⟩ = .ok a ∧
      (CommentsContained a ↔
        '\n' ∉ settings.output.fileName.toList ∧ '\n' ∉ settings.library.name.toList) ∧
      (DocsContained a ↔ Docstring.Contained settings.library.name.toList) ∧
      (PathContained ⟨types, p, settings⟩ a ↔ '\r' ∉ settings.library.path.toList) := by
  have hacceptable := p.checkWidths_eq_ok_iff.mp hwidths
  have hmodule := Settings.isIdentifier_of_check (Settings.check_of_parse hparse)
  exact ⟨_, artifact_eq_ok ⟨types, p, settings⟩ hacceptable,
    commentsContained_listing_iff ⟨types, p, settings⟩ hname,
    docsContained_listing_iff ⟨types, p, settings⟩ hmodule,
    pathContained_listing_iff ⟨types, p, settings⟩⟩

/-- A settings file that is accepted, with a line feed and a dollar sign in the display name and a
carriage return in the path. -/
def unrulyText : String :=
  "[library]\nname = \"T\\n$x\"\npath = \"a\\rb\"\n"

def unrulySettings : Settings where
  library := { name := "T\n$x", path := "a\rb" }

set_option maxRecDepth 100000 in
/-- None of its texts stays where it is placed. -/
theorem unrulyText_not_contained :
    Settings.parse unrulyText = .ok unrulySettings ∧
      ∃ a, artifact ⟨.own, .ilp32, unrulySettings⟩ = .ok a ∧ ¬CommentsContained a ∧
        ¬DocsContained a ∧ ¬PathContained ⟨.own, .ilp32, unrulySettings⟩ a := by
  have hparse : Settings.parse unrulyText = .ok unrulySettings := rfl
  obtain ⟨a, ha, hcomments, hdocs, hpath⟩ :=
    contained_iff hparse .own (p := .ilp32) rfl (by decide)
  refine ⟨hparse, a, ha, fun h => ?_, fun h => ?_, fun h => ?_⟩
  · exact absurd (hcomments.mp h).2 (by decide)
  · exact absurd (hdocs.mp h).2 (by decide)
  · exact absurd (hpath.mp h) (by decide)

end Bindings.Source

end AbiBindings
