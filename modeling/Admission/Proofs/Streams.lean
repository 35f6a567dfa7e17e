import Admission.Program.Plan
import Admission.Proofs.Batch
import Admission.Proofs.Endings

/-!
Streams of policies. Main statement: whatever the texts of the rules are, between the documents of two
policies there is one line of three dashes, and no other line begins with such dashes; so whoever cuts
the text at these lines has the documents.
-/

namespace Admission

namespace Yaml

variable {isEnd : Char → Bool}

namespace LinePlace

/-- The start of a line is reached by what ends the line before. -/
theorem step_eq_lineStart {place : LinePlace} {c : Char} {isFed : Bool}
    (h : place.step c = lineStart isFed) : isBreak c = true ∧ isFed = decide (c = '\n') := by
  cases place with
  | marked => cases h
  | _ =>
    simp only [step] at h
    split_ifs at h with hc
    cases h
    exact ⟨hc, rfl⟩

/-- A text that leads to the start of a line behind a line feed ends with the line feed. -/
theorem getLast?_of_walk {cs : List Char} (h : (lineStart false).walk cs = lineStart true) :
    cs.getLast? = some '\n' := by
  obtain rfl | ⟨front, c, rfl⟩ := List.eq_nil_or_concat cs
  · cases h
  · rw [List.concat_eq_append] at h ⊢
    rw [walk_append] at h
    obtain ⟨-, hfed⟩ := step_eq_lineStart h
    rw [List.getLast?_concat, of_decide_eq_true hfed.symm]

end LinePlace

/-- A text that ends its last line, and none of whose lines could be taken for a separator. -/
structure IsDocument (isEnd : Char → Bool) (cs : List Char) : Prop where
  ending : cs.getLast? = some '\n'
  unmarked : ∀ line ∈ Text.lines isEnd cs, ['-', '-', '-'].isPrefixOf line = false

/-- The document of an object is one, if a line feed ends it. -/
theorem isDocument_of_endsFed (hend : ∀ c, isEnd c = true → isBreak c = true)
    {entries : List (String × Tree)} (h : endsFed (Tree.object entries) = true) :
    IsDocument isEnd (documentChars (Tree.object entries)) := by
  have hwalk := walk_documentChars false entries
  rw [h] at hwalk
  have hne : (LinePlace.lineStart false).walk (documentChars (Tree.object entries)) ≠ .marked := by
    rw [hwalk]
    exact nofun
  exact ⟨LinePlace.getLast?_of_walk hwalk, LinePlace.isPrefixOf_line hend hne⟩

theorem lines_separator (hfeed : isEnd '\n' = true)
    (hend : ∀ c, isEnd c = true → isBreak c = true) : Text.lines isEnd separator = [separator] := by
  have hdash : isEnd '-' = false := Bool.eq_false_iff.2 fun h => by cases hend '-' h
  change Text.lines isEnd ['-', '-', '-', '\n'] = [['-', '-', '-', '\n']]
  rw [Text.lines_cons hdash, Text.lines_cons hdash, Text.lines_cons hdash,
    Text.lines_cons_end hfeed]
  rfl

/-- The lines of a stream are those of its documents, and a separator between two of these. -/
theorem lines_intercalate (hfeed : isEnd '\n' = true)
    (hend : ∀ c, isEnd c = true → isBreak c = true) {documents : List (List Char)}
    (h : ∀ document ∈ documents, IsDocument isEnd document) :
    Text.lines isEnd (separator.intercalate documents) =
      [separator].intercalate (documents.map (Text.lines isEnd)) := by
  have hends {front : List Char} (hlast : front.getLast? = some '\n') (back : List Char) :
      Text.lines isEnd (front ++ back) = Text.lines isEnd front ++ Text.lines isEnd back := by
    refine Text.lines_append (fun c hc => ?_) back
    cases hlast.symm.trans hc
    exact hfeed
  induction documents with
  | nil => rfl
  | cons document documents ih =>
    rw [List.forall_mem_cons] at h
    cases documents with
    | nil => simp
    | cons next documents =>
      -- A document and a separator each end a line, so nothing runs over into what follows.
      have hseparator (back : List Char) :
          Text.lines isEnd (separator ++ back) = [separator] ++ Text.lines isEnd back := by
        rw [hends rfl, lines_separator hfeed hend]
      rw [List.intercalate_cons_cons, List.append_assoc, hends h.1.ending, hseparator, ih h.2]
      simp only [List.map_cons, List.intercalate_cons_cons, List.append_assoc]

/-- Cutting a stream at its separators gives its documents back. -/
theorem splitOn_intercalate_lines {documents : List (List Char)} (hne : documents ≠ [])
    (h : ∀ document ∈ documents, IsDocument isEnd document) :
    (([separator].intercalate (documents.map (Text.lines isEnd))).splitOn separator).map
      List.flatten = documents := by
  have hsep : ∀ lines ∈ documents.map (Text.lines isEnd), separator ∉ lines := by
    refine List.forall_mem_map.2 fun document hdocument hmem => ?_
    cases (h document hdocument).unmarked separator hmem
  rw [List.splitOn_intercalate separator hsep (by simpa using hne), List.map_map]
  exact List.map_id'' (Text.flatten_lines isEnd) documents

end Yaml

/-- The text of a policy alone. -/
def Policy.document (policy : Policy) : List Char := Yaml.documentChars policy.toTree

theorem Policy.isDocument {policy : Policy} {isEnd : Char → Bool}
    (hend : ∀ c, isEnd c = true → Yaml.isBreak c = true)
    (h : Yaml.endsFed policy.toTree = true) : Yaml.IsDocument isEnd policy.document := by
  unfold Policy.document
  cases policy <;> exact Yaml.isDocument_of_endsFed hend h

/-- The lines of the written policies are those of their documents, one after the other, and one
separator between two of these. A document ends with a line feed, and no line of it begins with three
dashes. So cutting at the separators gives the documents back in their order, and without policies
nothing is written. All this holds whichever breaks end a line beside the line feed. -/
theorem Converter.stream_of_convertAll [Pattern.Engine] (converter : Converter) (rules : List Rule)
    (isEnd : Char → Bool) (hfeed : isEnd '\n' = true)
    (hend : ∀ c, isEnd c = true → Yaml.isBreak c = true) :
    let policies := (converter.convertAll rules).policies
    let lines := Text.lines isEnd (policyText policies).toList
    lines = [Yaml.separator].intercalate
        (policies.map fun policy => Text.lines isEnd policy.document) ∧
      (∀ policy ∈ policies, policy.document.getLast? = some '\n' ∧
        ∀ line ∈ Text.lines isEnd policy.document, ['-', '-', '-'].isPrefixOf line = false) ∧
      (policies ≠ [] → (lines.splitOn Yaml.separator).map List.flatten =
        policies.map Policy.document) ∧
      policyText [] = "" := by
  intro policies lines
  have hdocument : ∀ policy ∈ policies, Yaml.IsDocument isEnd policy.document := by
    intro policy hpolicy
    obtain ⟨rule, -, hconvert⟩ := Converter.mem_policies_convertAll.1 hpolicy
    exact Policy.isDocument hend (endsFed_of_convert hconvert)
  have htext : (policyText policies).toList =
      Yaml.separator.intercalate (policies.map Policy.document) := by
    rw [policyText, Yaml.stream, String.toList_ofList, Yaml.streamChars, List.map_map]
    rfl
  have hdocuments := List.forall_mem_map.2 hdocument
  have hlines : lines = [Yaml.separator].intercalate
      ((policies.map Policy.document).map (Text.lines isEnd)) := by
    rw [← Yaml.lines_intercalate hfeed hend hdocuments, ← htext]
  refine ⟨?_, fun policy hpolicy => ?_, fun hne => ?_, by decide⟩
  · rw [hlines, List.map_map]
    rfl
  · exact ⟨(hdocument policy hpolicy).ending, (hdocument policy hpolicy).unmarked⟩
  · rw [hlines]
    exact Yaml.splitOn_intercalate_lines (by simpa using hne) hdocuments

def Rule.dashedComment : Rule where
  id := 1001
  criteria := [{ name := "runAsRoot", operator := "=", value := "true" },
    { name := "runAsPrivileged", operator := "=", value := "true" }]
  mode := some "protect\u2028---\n"
  comment := "first\n---\nsecond"

def Rule.dashedItems : Rule where
  id := 1002
  criteria := [{ name := "labels", operator := "containsAny", value := "a\n---\nb, ---" },
    { name := "namespace", operator := "containsAny", value := "a\u2028---\n---" }]

theorem Converter.stream_of_dashed :
    ∃ first second : Policy,
      (plain.convertAll [.dashedComment, .dashedItems]).policies = [first, second] ∧
      first.mode = "protect\u2028---\n" ∧
      ((Text.lines Yaml.isBreak (policyText [first, second]).toList).splitOn
        Yaml.separator).map List.flatten = [first.document, second.document] ∧
      ((Text.lines (· = '\n') (policyText [first, second]).toList).splitOn
        Yaml.separator).map List.flatten = [first.document, second.document] := by
  have hmodes : (plain.convertAll [.dashedComment, .dashedItems]).policies.map Policy.mode =
      ["protect\u2028---\n", "protect"] := by decide +kernel
  obtain ⟨first, rest, hpolicies, hfirst, hrest⟩ := List.map_eq_cons_iff.1 hmodes
  obtain ⟨second, rfl, -⟩ := List.map_eq_singleton_iff.1 hrest
  obtain ⟨-, -, hbreaks, -⟩ := stream_of_convertAll plain [.dashedComment, .dashedItems]
    Yaml.isBreak rfl fun _ h => h
  obtain ⟨-, -, hfeeds, -⟩ := stream_of_convertAll plain [.dashedComment, .dashedItems]
    (· = '\n') rfl fun c h => by
      rw [of_decide_eq_true h]
      rfl
  rw [hpolicies] at hbreaks hfeeds
  exact ⟨first, second, hpolicies, hfirst, hbreaks (List.cons_ne_nil _ _),
    hfeeds (List.cons_ne_nil _ _)⟩

end Admission
