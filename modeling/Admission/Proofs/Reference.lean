import Admission.Proofs.MemberName
import Mathlib.Data.List.Induction
import Mathlib.Data.List.TakeWhile

/-!
References to modules in their parts: a scheme, a host with its port, the directories below it, a name
and a tag, of which only the name has to be there. Main statement: the member name is made from the
name of the reference, unless the reference has a port and no tag. The port is then taken for the tag,
and the host for the name.
-/

namespace Admission

/-- A word of a reference: there is something, and neither a colon nor a slash. -/
structure Reference.Word where
  chars : List Char
  ne_nil : chars ≠ [] := by decide
  colon : ':' ∉ chars := by decide
  slash : '/' ∉ chars := by decide

/-- The way to a module. The first directory is the host, which may have a port. -/
structure Reference.Directory where
  host : Word
  port : Option Word := none
  path : List Word := []

structure Reference where
  scheme : Option Reference.Word := none
  directory : Option Reference.Directory := none
  name : Reference.Word
  tag : Option Reference.Word := none

namespace Reference

def Word.behindColon (word : Option Word) : List Char := word.elim [] fun w => ':' :: w.chars

def Directory.chars (directory : Directory) : List Char :=
  directory.host.chars ++ Word.behindColon directory.port ++
    '/' :: directory.path.flatMap fun w => w.chars ++ ['/']

def place (r : Reference) : List Char := r.directory.elim [] Directory.chars ++ r.name.chars

def text (r : Reference) : String :=
  String.ofList ((r.scheme.elim [] fun w => w.chars ++ [':', '/', '/']) ++
    (r.place ++ Word.behindColon r.tag))

def Word.underscored (word : Word) : String :=
  String.ofList (word.chars.map fun c => if c = '-' then '_' else c)

end Reference

namespace Module

theorem after_append {front : List Char} (h : ':' ∉ front) (rest : List Char) :
    dropScheme.after (front ++ rest) = dropScheme.after rest := by
  induction front with
  | nil => rfl
  | cons c cs ih =>
    rw [List.mem_cons, not_or] at h
    rw [List.cons_append, dropScheme.after, ih h.2]
    rintro r hr -
    exact h.1 hr.symm

/-- A colon with a word behind it is none that ends a scheme. -/
theorem after_behindColon (word : Option Reference.Word) (rest : List Char) :
    dropScheme.after (Reference.Word.behindColon word ++ rest) = dropScheme.after rest := by
  cases word with
  | none => rfl
  | some w =>
    obtain ⟨c, cs, hcs⟩ := List.exists_cons_of_ne_nil w.ne_nil
    have hc : c ≠ '/' := fun heq => w.slash (by simp [hcs, heq])
    change dropScheme.after (':' :: (w.chars ++ rest)) = _
    rw [dropScheme.after, after_append w.colon]
    rintro r - hr
    rw [hcs] at hr
    exact hc (List.cons.inj hr).1

theorem after_path (path : List Reference.Word) (rest : List Char) :
    dropScheme.after (path.flatMap (fun w => w.chars ++ ['/']) ++ rest) =
      dropScheme.after rest := by
  induction path with
  | nil => rfl
  | cons w path ih =>
    have hslash : ':' ∉ w.chars ++ ['/'] := by simpa using w.colon
    rw [List.flatMap_cons, List.append_assoc, after_append hslash, ih]

theorem after_place (r : Reference) :
    dropScheme.after (r.place ++ Reference.Word.behindColon r.tag) = none := by
  have hname : dropScheme.after (r.name.chars ++ Reference.Word.behindColon r.tag) = none := by
    rw [after_append r.name.colon, ← List.append_nil (Reference.Word.behindColon r.tag),
      after_behindColon]
    rfl
  unfold Reference.place
  rw [List.append_assoc]
  cases r.directory with
  | none => exact hname
  | some directory =>
    change dropScheme.after (directory.chars ++ _) = none
    have hslash : ':' ∉ ['/'] := by decide
    unfold Reference.Directory.chars
    rw [List.append_assoc, List.append_assoc, after_append directory.host.colon, after_behindColon,
      List.cons_append, ← List.singleton_append, after_append hslash, after_path, hname]

theorem dropScheme_text (r : Reference) :
    dropScheme r.text.toList = r.place ++ Reference.Word.behindColon r.tag := by
  unfold Reference.text
  rw [String.toList_ofList]
  cases r.scheme with
  | none =>
    change dropScheme (r.place ++ Reference.Word.behindColon r.tag) = _
    rw [dropScheme, after_place]
    rfl
  | some w =>
    change dropScheme (w.chars ++ [':', '/', '/'] ++ _) = _
    rw [List.append_assoc]
    exact dropScheme_append w.colon _

theorem dropTag_eq_self {cs : List Char} (h : ':' ∉ cs) : dropTag cs = cs := by
  have hnone : cs.reverse.dropWhile (· ≠ ':') = [] := by
    rw [List.dropWhile_eq_nil_iff]
    intro c hc
    rw [List.mem_reverse] at hc
    exact decide_eq_true fun hcolon => h (hcolon ▸ hc)
  rw [dropTag, hnone]

theorem lastSegment_eq_self {cs : List Char} (h : '/' ∉ cs) : lastSegment cs = cs := by
  have hall : ∀ c ∈ cs.reverse, decide (c ≠ '/') = true := by
    intro c hc
    rw [List.mem_reverse] at hc
    exact decide_eq_true fun hslash => h (hslash ▸ hc)
  rw [lastSegment, List.takeWhile_eq_self_iff.2 hall, List.reverse_reverse]

theorem colon_not_mem_path (path : List Reference.Word) :
    ':' ∉ path.flatMap fun w => w.chars ++ ['/'] := by
  simp only [List.mem_flatMap, List.mem_append, not_exists, not_and, not_or]
  exact fun w _ => ⟨w.colon, by decide⟩

/-- The slash behind the directories is the last one. -/
theorem lastSegment_place (r : Reference) : lastSegment r.place = r.name.chars := by
  unfold Reference.place
  cases r.directory with
  | none => exact lastSegment_eq_self r.name.slash
  | some directory =>
    have hslash : ∃ front, directory.chars = front ++ ['/'] := by
      unfold Reference.Directory.chars
      cases directory.path using List.reverseRecOn with
      | nil => exact ⟨_, rfl⟩
      | append_singleton path w =>
        rw [List.flatMap_append, List.flatMap_singleton]
        exact ⟨directory.host.chars ++ Reference.Word.behindColon directory.port ++
          '/' :: (path.flatMap (fun w => w.chars ++ ['/']) ++ w.chars), by simp⟩
    obtain ⟨front, hfront⟩ := hslash
    change lastSegment (directory.chars ++ r.name.chars) = _
    rw [hfront, List.append_assoc]
    exact lastSegment_append r.name.slash front

section

variable {r : Reference} {directory : Reference.Directory} {port : Reference.Word}

/-- The last colon is that of the tag if there is one. -/
theorem dropTag_place
    (h : r.tag = none → ∀ directory, r.directory = some directory → directory.port = none) :
    dropTag (r.place ++ Reference.Word.behindColon r.tag) = r.place := by
  cases htag : r.tag with
  | some w => exact dropTag_append w.colon r.place
  | none =>
    have hcolon : ':' ∉ r.place := by
      unfold Reference.place
      rw [List.mem_append, not_or]
      refine ⟨?_, r.name.colon⟩
      cases hdirectory : r.directory with
      | none => exact List.not_mem_nil
      | some directory =>
        change ':' ∉ directory.chars
        unfold Reference.Directory.chars
        rw [h htag directory hdirectory]
        simpa [Reference.Word.behindColon, directory.host.colon] using
          colon_not_mem_path directory.path
    change dropTag (r.place ++ []) = r.place
    rw [List.append_nil, dropTag_eq_self hcolon]

/-- Without a tag the last colon is that of the port. -/
theorem dropTag_of_port (hdirectory : r.directory = some directory)
    (hport : directory.port = some port) (htag : r.tag = none) :
    dropTag (r.place ++ Reference.Word.behindColon r.tag) = directory.host.chars := by
  have hcolon : ':' ∉ port.chars ++
      '/' :: (directory.path.flatMap (fun w => w.chars ++ ['/']) ++ r.name.chars) := by
    simpa [port.colon, r.name.colon] using colon_not_mem_path directory.path
  have hplace : r.place ++ Reference.Word.behindColon r.tag = directory.host.chars ++ ':' ::
      (port.chars ++ '/' ::
        (directory.path.flatMap (fun w => w.chars ++ ['/']) ++ r.name.chars)) := by
    simp [Reference.place, hdirectory, Reference.Directory.chars, hport, htag,
      Reference.Word.behindColon]
  rw [hplace]
  exact dropTag_append hcolon directory.host.chars

theorem memberNameOf_text
    (h : r.tag = none → ∀ directory, r.directory = some directory → directory.port = none) :
    memberNameOf r.text = r.name.underscored := by
  unfold memberNameOf memberNameChars
  rw [dropScheme_text, dropTag_place h, lastSegment_place, Reference.Word.underscored]

theorem memberNameOf_text_of_port (hdirectory : r.directory = some directory)
    (hport : directory.port = some port) (htag : r.tag = none) :
    memberNameOf r.text = directory.host.underscored := by
  unfold memberNameOf memberNameChars
  rw [dropScheme_text, dropTag_of_port hdirectory hport htag,
    lastSegment_eq_self directory.host.slash, Reference.Word.underscored]

end

end Module

namespace Reference

/-- The member name is the name of the reference, with underscores for dashes, exactly if there is a
tag or no port, or the host happens to look like the name: without a tag, a host with a port is taken
for the name. The scheme and the directories below the host make no difference. -/
theorem memberName_of_text (r : Reference) :
    (Module.memberNameOf r.text = r.name.underscored ↔ (r.tag = none →
      ∀ directory port, r.directory = some directory → directory.port = some port →
        directory.host.underscored = r.name.underscored)) ∧
    ∀ directory port, r.directory = some directory → directory.port = some port → r.tag = none →
      Module.memberNameOf r.text = directory.host.underscored := by
  constructor
  · constructor
    · intro hname htag directory port hdirectory hport
      rw [← Module.memberNameOf_text_of_port hdirectory hport htag, hname]
    · intro hsame
      by_cases h : r.tag = none → ∀ directory, r.directory = some directory → directory.port = none
      · exact Module.memberNameOf_text h
      · push Not at h
        obtain ⟨htag, directory, hdirectory, hne⟩ := h
        obtain ⟨port, hport⟩ := Option.ne_none_iff_exists'.1 hne
        rw [Module.memberNameOf_text_of_port hdirectory hport htag]
        exact hsame htag directory port hdirectory hport
  · exact fun directory port hdirectory hport htag =>
      Module.memberNameOf_text_of_port hdirectory hport htag

/-- A module on a host with a port, without a tag. -/
def onPort : Reference where
  directory := some {
    host := { chars := "localhost".toList }
    port := some { chars := "5000".toList }
    path := [{ chars := "policies".toList }] }
  name := { chars := "pod-privileged".toList }

def onPortTagged : Reference :=
  { onPort with scheme := some { chars := "registry".toList }, tag := some { chars := "v1.0.3".toList } }

theorem memberName_of_onPort :
    onPortTagged.text = "registry://localhost:5000/policies/pod-privileged:v1.0.3" ∧
      Module.memberNameOf onPortTagged.text = "pod_privileged" ∧
      onPort.text = "localhost:5000/policies/pod-privileged" ∧
      Module.memberNameOf onPort.text = "localhost" := by
  have htagged : Module.memberNameOf onPortTagged.text = onPortTagged.name.underscored :=
    (memberName_of_text onPortTagged).1.2 nofun
  have hport : Module.memberNameOf onPort.text = _ :=
    (memberName_of_text onPort).2 _ _ rfl rfl rfl
  exact ⟨by decide +kernel, htagged.trans (by decide +kernel), by decide +kernel,
    hport.trans (by decide +kernel)⟩

/-- A port is taken for a tag. -/
theorem onPort_memberName_ne : onPort.text = "localhost:5000/policies/pod-privileged" ∧
    onPort.name.underscored = "pod_privileged" ∧
    Module.memberNameOf onPort.text ≠ onPort.name.underscored := by
  refine ⟨?_, ?_, ?_⟩ <;> decide +kernel

end Reference

end Admission
