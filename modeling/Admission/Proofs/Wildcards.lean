import Admission.Pattern
import Admission.Proofs.PatternMeaning
import Admission.Settings.Conditions
import Mathlib.Data.List.Forall2

/-!
Values with wildcards and the regular expressions made of them. Main statement: as long as a value
has no other character with a meaning in patterns, its pattern matches just the names that the value
stands for, unless there is a full stop in it and no wildcard.
-/

namespace Admission

namespace Pattern

/-- The character has a meaning of its own in patterns, and is none of those that are replaced. -/
def isForeign (c : Char) : Bool := c ∈ ['\\', '+', '(', ')', '|', '[', '{', '^', '$']

/-- The part of a pattern that comes from a character of a value, where full stops are escaped if
the value has wildcards. -/
def wildcardPart (escaped : Bool) (c : Char) : Pattern :=
  match c with
  | '.' => if escaped then literal ⟨'.', false⟩ else any
  | '?' => any
  | '*' => repetition 0 none true any
  | c => literal ⟨c, false⟩

/-- The characters lead to a place at the end of a sequence, with any fuel that can suffice. -/
def Leads (p : Progress) (cs : List Char) (q : Progress) : Prop :=
  ∀ fuel, cs.length < fuel → sequence false fuel p cs = some (q, [])

namespace Leads

variable {p q : Progress} {cs : List Char}

theorem nil (hverbose : p.verbose = false) : Leads p [] p := by
  intro fuel hfuel
  obtain ⟨verbose, names, parts, branches⟩ := p
  cases hverbose
  cases fuel with
  | zero => cases hfuel
  | succ fuel => rfl

/-- What takes one step to a place from which characters lead on. -/
theorem step {p' : Progress} {cs' : List Char} (hlength : cs'.length < cs.length)
    (hstep : ∀ fuel, sequence false (fuel + 1) p cs = sequence false fuel p' cs')
    (h : Leads p' cs' q) : Leads p cs q := by
  intro fuel hfuel
  cases fuel with
  | zero => cases hfuel
  | succ fuel =>
    rw [hstep]
    apply h
    omega

/-- Most characters are literals. -/
theorem literal {c : Char} (hverbose : p.verbose = false) (hforeign : isForeign c = false)
    (hwild : isWildcard c = false) (hdot : c ≠ '.')
    (h : Leads (p.push (literal ⟨c, false⟩)) cs q) : Leads p (c :: cs) q := by
  refine step (Nat.lt_succ_self _) (fun fuel => ?_) h
  rw [sequence, hverbose]
  simp only [skip, Bool.false_eq_true, if_false]
  split
  case h_1 heq => cases heq
  case h_14 heq =>
    cases heq
    rfl
  all_goals
    next heq =>
    cases heq
    exfalso
    revert hforeign hwild hdot
    decide

theorem dot (hverbose : p.verbose = false) (h : Leads (p.push any) cs q) :
    Leads p ('.' :: cs) q := by
  obtain ⟨verbose, names, parts, branches⟩ := p
  cases hverbose
  exact step (Nat.lt_succ_self _) (fun fuel => rfl) h

theorem escapedDot (hverbose : p.verbose = false)
    (h : Leads (p.push (.literal ⟨'.', false⟩)) cs q) : Leads p ('\\' :: '.' :: cs) q := by
  obtain ⟨verbose, names, parts, branches⟩ := p
  cases hverbose
  exact step (Nat.lt_succ_of_lt (Nat.lt_succ_self _)) (fun fuel => rfl) h

/-- An asterisk repeats what was read last, as often as possible if no question mark follows. -/
theorem run (hverbose : p.verbose = false) (hcs : cs.head? ≠ some '?')
    (h : Leads (p.push (repetition 0 none true any)) cs q) : Leads p ('.' :: '*' :: cs) q := by
  have hlazy : lazyMark cs = (true, cs) := by
    unfold lazyMark
    split
    · exact absurd rfl hcs
    · rfl
  have hstep (fuel : Nat) : sequence false (fuel + 1) (p.push any) ('*' :: cs) =
      sequence false fuel (p.push (repetition 0 none (lazyMark cs).1 any)) (lazyMark cs).2 := by
    obtain ⟨verbose, names, parts, branches⟩ := p
    cases hverbose
    rfl
  rw [hlazy] at hstep
  exact dot hverbose (step (Nat.lt_succ_self _) hstep h)

theorem lineStart (hverbose : p.verbose = false)
    (h : Leads (p.push (.assertion .lineStart)) cs q) : Leads p ('^' :: cs) q := by
  obtain ⟨verbose, names, parts, branches⟩ := p
  cases hverbose
  exact step (Nat.lt_succ_self _) (fun fuel => rfl) h

theorem lineEnd (hverbose : p.verbose = false)
    (h : Leads (p.push (.assertion .lineEnd)) cs q) : Leads p ('$' :: cs) q := by
  obtain ⟨verbose, names, parts, branches⟩ := p
  cases hverbose
  exact step (Nat.lt_succ_self _) (fun fuel => rfl) h

theorem bar (hverbose : p.verbose = false) (h : Leads p.branch cs q) : Leads p ('|' :: cs) q := by
  obtain ⟨verbose, names, parts, branches⟩ := p
  cases hverbose
  exact step (Nat.lt_succ_self _) (fun fuel => rfl) h

/-- A character that stands as it is in a pattern. -/
theorem plain {c : Char} (hverbose : p.verbose = false) (hforeign : isForeign c = false)
    (hwild : isWildcard c = false) (h : Leads (p.push (wildcardPart false c)) cs q) :
    Leads p (c :: cs) q := by
  unfold wildcardPart at h
  split at h
  · exact dot hverbose h
  · cases hwild
  · cases hwild
  · next hdot _ _ => exact literal hverbose hforeign hwild hdot h

/-- The characters stand as they are in a pattern. -/
theorem plains {value : List Char} (hverbose : p.verbose = false)
    (hforeign : ∀ c ∈ value, isForeign c = false) (hwild : ∀ c ∈ value, isWildcard c = false)
    (h : Leads { p with parts := (value.map (wildcardPart false)).reverse ++ p.parts } cs q) :
    Leads p (value ++ cs) q := by
  induction value generalizing p with
  | nil => exact h
  | cons c value ih =>
    rw [List.forall_mem_cons] at hforeign hwild
    refine plain hverbose hforeign.1 hwild.1 (ih hverbose hforeign.2 hwild.2 ?_)
    simpa [Progress.push] using h

/-- A character of a value with wildcards. -/
theorem piece {c : Char} (hverbose : p.verbose = false) (hforeign : isForeign c = false)
    (hcs : cs.head? ≠ some '?') (h : Leads (p.push (wildcardPart true c)) cs q) :
    Leads p (wildcardPiece c ++ cs) q := by
  unfold wildcardPart at h
  split at h
  · exact escapedDot hverbose h
  · exact dot hverbose h
  · exact run hverbose hcs h
  · next hdot hone hrun =>
    have hwild : isWildcard c = false := by
      simpa [isWildcard] using ⟨hone, hrun⟩
    have hpiece : wildcardPiece c = [c] := by
      unfold wildcardPiece
      split <;> trivial
    rw [hpiece]
    exact literal hverbose hforeign hwild hdot h

end Leads

/-- What a value becomes has no question mark in front of what follows it. -/
theorem head?_pieces (value : List Char) :
    (value.flatMap wildcardPiece ++ ['$']).head? ≠ some '?' := by
  cases value with
  | nil => decide
  | cons c value =>
    rw [List.flatMap_cons]
    unfold wildcardPiece
    split
    · simp
    · simp
    · simp
    · next hone _ =>
      simpa using hone

theorem leads_pieces {p : Progress} (hverbose : p.verbose = false) {value : List Char}
    (hforeign : ∀ c ∈ value, isForeign c = false) :
    Leads p (value.flatMap wildcardPiece ++ ['$']) { p with
      parts := assertion .lineEnd :: ((value.map (wildcardPart true)).reverse ++ p.parts) } := by
  induction value generalizing p with
  | nil => exact .lineEnd hverbose (.nil hverbose)
  | cons c value ih =>
    rw [List.forall_mem_cons] at hforeign
    have hrest := ih (p := p.push (wildcardPart true c)) hverbose hforeign.2
    have hstep := Leads.piece hverbose hforeign.1 (head?_pieces value) hrest
    simpa [Progress.push] using hstep

/-- The pattern of a value is the sequence of the parts for its characters, between the beginning
and the end. -/
theorem read_ofWildcard {value : String} (hforeign : ∀ c ∈ value.toList, isForeign c = false) :
    read (ofWildcard value).toList = some (concat (assertion .lineStart ::
      (value.toList.map (wildcardPart (value.toList.any isWildcard)) ++
        [assertion .lineEnd]))) := by
  have hbody {p : Progress} (hverbose : p.verbose = false) :
      Leads p (wildcardBody value.toList ++ ['$']) { p with
        parts := assertion .lineEnd :: ((value.toList.map
          (wildcardPart (value.toList.any isWildcard))).reverse ++ p.parts) } := by
    unfold wildcardBody
    cases hwild : value.toList.any isWildcard with
    | true => exact leads_pieces hverbose hforeign
    | false =>
      have hplain : ∀ c ∈ value.toList, isWildcard c = false := by simpa using hwild
      exact .plains hverbose hforeign hplain (.lineEnd hverbose (.nil hverbose))
  have hall := Leads.lineStart (p := ⟨false, [], [], []⟩) rfl (hbody rfl)
  rw [ofWildcard, String.toList_ofList, read, hall _ (Nat.lt_succ_self _)]
  simp [Progress.result, Progress.push, ofParts]

section
variable {tables : Tables} {before middle after : List Char}

theorem spans_literal {c : Char} :
    Spans tables (literal ⟨c, false⟩) initialFlags before middle after ↔ middle = [c] := by
  simp [Spans, Literal.StandsFor, initialFlags]

theorem spans_any :
    Spans tables any initialFlags before middle after ↔ ∃ c, middle = [c] ∧ c ≠ '\n' := by
  simp [Spans, AnyStandsFor, initialFlags]

theorem repeats_any {n : Nat} : Repeats (Spans tables any initialFlags) n before middle after ↔
    middle.length = n ∧ '\n' ∉ middle := by
  induction n generalizing before middle with
  | zero =>
    rw [Repeats, List.length_eq_zero_iff]
    refine ⟨?_, And.left⟩
    rintro rfl
    exact ⟨rfl, List.not_mem_nil⟩
  | succ n ih =>
    simp only [Repeats, spans_any, ih]
    constructor
    · rintro ⟨_, rest, rfl, ⟨c, rfl, hc⟩, rfl, hrest⟩
      exact ⟨rfl, by simpa using ⟨hc.symm, hrest⟩⟩
    · rintro ⟨hlength, hmiddle⟩
      cases middle with
      | nil => cases hlength
      | cons c middle =>
        rw [List.mem_cons, not_or] at hmiddle
        exact ⟨[c], middle, rfl, ⟨c, rfl, Ne.symm hmiddle.1⟩, Nat.succ.inj hlength, hmiddle.2⟩

theorem spans_run : Spans tables (repetition 0 none true any) initialFlags before middle after ↔
    '\n' ∉ middle := by
  rw [Spans]
  simp only [repeats_any]
  constructor
  · rintro ⟨n, -, -, -, h⟩
    exact h
  · intro h
    exact ⟨_, Nat.zero_le _, nofun, rfl, h⟩

theorem leave_wildcardPart (state : Flags) (escaped : Bool) (c : Char) :
    leave state (wildcardPart escaped c) = state := by
  unfold wildcardPart
  split
  · cases escaped <;> rfl
  · rfl
  · rfl
  · rfl

theorem partsSpan_lineEnd : PartsSpan tables [assertion .lineEnd] initialFlags before middle after ↔
    middle = [] ∧ after = [] := by
  simp [PartsSpan, Spans, Assertion.HoldsAt, initialFlags]

theorem partsSpan_cons {escaped : Bool} {c : Char} {parts : List Pattern} :
    PartsSpan tables (wildcardPart escaped c :: parts) initialFlags before middle after ↔
      ∃ first rest, middle = first ++ rest ∧
        Spans tables (wildcardPart escaped c) initialFlags before first (rest ++ after) ∧
        PartsSpan tables parts initialFlags (before ++ first) rest after := by
  rw [PartsSpan, leave_wildcardPart]

/-- The parts for a value with wildcards span the names that it stands for. -/
theorem partsSpan_escaped {value : List Char} (hmiddle : '\n' ∉ middle) :
    PartsSpan tables (value.map (wildcardPart true) ++ [assertion .lineEnd]) initialFlags before
      middle after ↔ after = [] ∧ Wildcard value middle := by
  induction value generalizing before middle with
  | nil =>
    rw [List.map_nil, List.nil_append, partsSpan_lineEnd, and_comm]
    refine and_congr_right fun _ => ⟨?_, ?_⟩
    · rintro rfl
      exact .nil
    · intro h
      cases h
      rfl
  | cons c value ih =>
    rw [List.map_cons, List.cons_append, partsSpan_cons]
    constructor
    · rintro ⟨first, rest, rfl, hfirst, hrest⟩
      rw [List.mem_append, not_or] at hmiddle
      obtain ⟨hafter, hvalue⟩ := (ih hmiddle.2).1 hrest
      refine ⟨hafter, ?_⟩
      unfold wildcardPart at hfirst
      split at hfirst
      · rw [if_pos rfl, spans_literal] at hfirst
        subst hfirst
        exact .same rfl hvalue
      · obtain ⟨d, rfl, -⟩ := spans_any.1 hfirst
        exact .one d hvalue
      · exact .run first hvalue
      · next hone hrun =>
        rw [spans_literal] at hfirst
        subst hfirst
        refine .same ?_ hvalue
        simpa [isWildcard] using ⟨hone, hrun⟩
    · rintro ⟨hafter, hvalue⟩
      cases hvalue with
      | one d h =>
        rw [List.mem_cons, not_or] at hmiddle
        exact ⟨[d], _, rfl, spans_any.2 ⟨d, rfl, Ne.symm hmiddle.1⟩, (ih hmiddle.2).2 ⟨hafter, h⟩⟩
      | run front h =>
        rw [List.mem_append, not_or] at hmiddle
        exact ⟨front, _, rfl, spans_run.2 hmiddle.1, (ih hmiddle.2).2 ⟨hafter, h⟩⟩
      | same hc h =>
        rw [List.mem_cons, not_or] at hmiddle
        have hpart : wildcardPart true c = literal ⟨c, false⟩ := by
          unfold wildcardPart
          split <;> first | rfl | cases hc
        exact ⟨[c], _, rfl, hpart ▸ spans_literal.2 rfl, (ih hmiddle.2).2 ⟨hafter, h⟩⟩

/-- Which character of a value without wildcards stands for which character of a name. -/
def PlainStandsFor (c d : Char) : Prop := if c = '.' then d ≠ '\n' else d = c

/-- The parts for a value without wildcards span what is as long as it. -/
theorem partsSpan_plains {value : List Char} {parts : List Pattern}
    (hwild : ∀ c ∈ value, isWildcard c = false) :
    PartsSpan tables (value.map (wildcardPart false) ++ parts) initialFlags before middle after ↔
      ∃ first rest, middle = first ++ rest ∧ List.Forall₂ PlainStandsFor value first ∧
        PartsSpan tables parts initialFlags (before ++ first) rest after := by
  induction value generalizing before middle with
  | nil => simp
  | cons c value ih =>
    rw [List.forall_mem_cons] at hwild
    have hpart {first : List Char} {after : List Char} :
        Spans tables (wildcardPart false c) initialFlags before first after ↔
          ∃ d, first = [d] ∧ PlainStandsFor c d := by
      unfold wildcardPart
      split
      · exact spans_any
      · cases hwild.1
      · cases hwild.1
      · next hdot _ _ =>
        have hdot : c ≠ '.' := hdot
        simp [PlainStandsFor, spans_literal, hdot]
    rw [List.map_cons, List.cons_append, partsSpan_cons]
    simp only [hpart, ih hwild.2]
    constructor
    · rintro ⟨_, _, rfl, ⟨d, rfl, hd⟩, first, rest, rfl, hfirst, hrest⟩
      exact ⟨d :: first, rest, rfl, .cons hd hfirst, by simpa using hrest⟩
    · rintro ⟨_, rest, rfl, hall, hrest⟩
      obtain ⟨d, first, hd, hfirst, rfl⟩ := List.forall₂_cons_left_iff.1 hall
      exact ⟨[d], first ++ rest, rfl, ⟨d, rfl, hd⟩, first, rest, rfl, hfirst, by simpa using hrest⟩

theorem partsSpan_plain {value : List Char} (hwild : ∀ c ∈ value, isWildcard c = false) :
    PartsSpan tables (value.map (wildcardPart false) ++ [assertion .lineEnd]) initialFlags before
      middle after ↔ after = [] ∧ List.Forall₂ PlainStandsFor value middle := by
  rw [partsSpan_plains hwild]
  simp only [partsSpan_lineEnd]
  constructor
  · rintro ⟨first, _, rfl, hvalue, rfl, hafter⟩
    rw [List.append_nil]
    exact ⟨hafter, hvalue⟩
  · rintro ⟨hafter, hvalue⟩
    exact ⟨middle, [], (List.append_nil middle).symm, hvalue, rfl, hafter⟩

/-- Nothing comes after what the parts of a whole pattern span. -/
theorem eq_nil_of_partsSpan {escaped : Bool} {value : List Char}
    (h : PartsSpan tables (value.map (wildcardPart escaped) ++ [assertion .lineEnd]) initialFlags
      before middle after) : after = [] := by
  induction value generalizing before middle with
  | nil => exact (partsSpan_lineEnd.1 h).2
  | cons c value ih =>
    obtain ⟨first, rest, -, -, hrest⟩ := partsSpan_cons.1 h
    exact ih hrest

theorem partsSpan_lineStart {parts : List Pattern} :
    PartsSpan tables (assertion .lineStart :: parts) initialFlags before middle after ↔
      before = [] ∧ PartsSpan tables parts initialFlags [] middle after := by
  rw [PartsSpan]
  constructor
  · rintro ⟨first, rest, rfl, ⟨rfl, hstart⟩, hrest⟩
    have hbefore : before = [] := hstart
    subst hbefore
    exact ⟨rfl, hrest⟩
  · rintro ⟨rfl, hparts⟩
    exact ⟨[], middle, rfl, ⟨rfl, rfl⟩, hparts⟩

/-- The pattern of a value matches the names that its parts span from one end to the other. -/
theorem matches_ofWildcard {value name : String}
    (hforeign : ∀ c ∈ value.toList, isForeign c = false) :
    Matches tables (ofWildcard value) name ↔
      PartsSpan tables (value.toList.map (wildcardPart (value.toList.any isWildcard)) ++
        [assertion .lineEnd]) initialFlags [] name.toList [] := by
  have hread := read_ofWildcard hforeign
  unfold Matches
  constructor
  · rintro ⟨pattern, before, middle, after, hpattern, hname, hspans⟩
    cases hread.symm.trans hpattern
    rw [Spans, partsSpan_lineStart] at hspans
    obtain ⟨rfl, hrest⟩ := hspans
    cases eq_nil_of_partsSpan hrest
    have hmiddle : name.toList = middle := by simpa using hname
    rw [hmiddle]
    exact hrest
  · intro h
    refine ⟨_, [], name.toList, [], hread, by simp, ?_⟩
    rw [Spans, partsSpan_lineStart]
    exact ⟨rfl, h⟩

theorem spans_ofParts {parts : List Pattern} {state : Flags} :
    Spans tables (ofParts parts) state before middle after ↔
      PartsSpan tables parts state before middle after := by
  unfold ofParts
  split
  · rw [Spans, PartsSpan]
  · simp [PartsSpan]
  · rw [Spans]

theorem leave_ofParts (state : Flags) (parts : List Pattern) :
    leave state (ofParts parts) = leaveAll state parts := by
  unfold ofParts
  split <;> rfl

theorem leaveAll_plains (state : Flags) (value : List Char) :
    leaveAll state (value.map (wildcardPart false)) = state := by
  induction value with
  | nil => rfl
  | cons c value ih => rw [List.map_cons, leaveAll, leave_wildcardPart, ih]

end

def undot (c : Char) : Char := if c = '.' then 'x' else c

theorem undot_ne {c : Char} : undot c = '\n' ↔ c = '\n' := by
  unfold undot
  split
  · next h =>
    subst h
    decide
  · rfl

theorem forall₂_undot {value : List Char} :
    List.Forall₂ PlainStandsFor value (value.map undot) := by
  rw [List.forall₂_map_right_iff, List.forall₂_same]
  intro c hc
  unfold PlainStandsFor undot
  split <;> simp

theorem forall₂_plain_self {value : List Char} : List.Forall₂ PlainStandsFor value value := by
  refine List.forall₂_same.2 fun c _ => ?_
  unfold PlainStandsFor
  split
  · next hdot =>
    rw [hdot]
    decide
  · rfl

theorem newline_mem_of_forall₂ {value name : List Char} (h : List.Forall₂ PlainStandsFor value name)
    (hline : '\n' ∈ value) : '\n' ∈ name := by
  induction h with
  | nil => exact hline
  | cons hc _ ih =>
    obtain rfl | hline := List.mem_cons.1 hline
    · rw [show _ = '\n' from hc]
      exact List.mem_cons_self
    · exact List.mem_cons_of_mem _ (ih hline)

theorem eq_or_mem_of_forall₂ {value name : List Char}
    (h : List.Forall₂ PlainStandsFor value name) : name = value ∨ '.' ∈ value := by
  induction h with
  | nil => exact .inl rfl
  | @cons c d _ _ hc _ ih =>
    by_cases hdot : c = '.'
    · exact .inr (hdot ▸ List.mem_cons_self)
    · rw [PlainStandsFor, if_neg hdot] at hc
      rw [hc]
      exact ih.imp (congrArg _) (List.mem_cons_of_mem _)

/-- Of the names on one line, those that match the pattern of a value are those that the value
stands for. -/
def MeansWildcard (tables : Tables) (value : String) : Prop :=
  ∀ name : String, '\n' ∉ name.toList →
    (Matches tables (ofWildcard value) name ↔ Wildcard value.toList name.toList)

/-- A value whose characters have no meaning of their own in patterns means what it says, with one
exception: a full stop in a value without wildcards matches every character. -/
theorem meansWildcard_iff (tables : Tables) {value : String}
    (hforeign : value.toList.any isForeign = false) :
    MeansWildcard tables value ↔
      ('.' ∈ value.toList → value.toList.any isWildcard = true ∨ '\n' ∈ value.toList) := by
  have hordinary : ∀ c ∈ value.toList, isForeign c = false := by simpa using hforeign
  unfold MeansWildcard
  simp only [matches_ofWildcard hordinary]
  cases hwild : value.toList.any isWildcard with
  | true =>
    refine iff_of_true (fun name hname => ?_) fun _ => .inl rfl
    rw [partsSpan_escaped hname]
    exact and_iff_right rfl
  | false =>
    have hplain : ∀ c ∈ value.toList, isWildcard c = false := by
      simpa using hwild
    simp only [partsSpan_plain hplain, wildcard_iff_eq hplain, true_and, Bool.false_eq_true,
      false_or]
    constructor
    · intro h hdot
      by_contra hline
      -- the name in which every full stop is replaced is matched, and is not the value
      have hname := h (String.ofList (value.toList.map undot)) (by simpa [undot_ne] using hline)
      rw [String.toList_ofList] at hname
      have hsame := (hname.1 forall₂_undot).trans (List.map_id _).symm
      have hfixed : undot '.' = '.' := List.map_inj_left.1 hsame '.' hdot
      revert hfixed
      decide
    · intro h name hname
      constructor
      · intro hvalue
        obtain hsame | hdot := eq_or_mem_of_forall₂ hvalue
        · exact hsame
        · -- a value with a line break only stands against names that have one as well
          exact absurd (newline_mem_of_forall₂ hvalue (h hdot)) hname
      · intro hsame
        rw [hsame]
        exact forall₂_plain_self

def Tables.ascii : Tables where
  SameFolded c d := c.toLower = d.toLower
  InSet _ _ _ := False
  InWord _ c := c.isAlphanum ∨ c = '_'

theorem meansWildcard_escaped : MeansWildcard .ascii "user?.dev" ∧ ¬ MeansWildcard .ascii "a.b" :=
  ⟨(meansWildcard_iff .ascii (by decide)).2 (by decide),
    fun h => absurd ((meansWildcard_iff .ascii (by decide)).1 h) (by decide)⟩

def dotted : Criterion where
  name := "user"
  operator := "containsAny"
  value := "a.b"

/-- The full stop of a name is not escaped, and so another name matches. -/
theorem dotted_matches_another :
    Settings.Validation.patterns dotted = .ok (["^a.b$"], ["a.b"]) ∧
      Matches .ascii "^a.b$" "axb" ∧ ¬ Wildcard "a.b".toList "axb".toList := by
  have hforeign : "a.b".toList.any isForeign = false := by decide
  have hwild : "a.b".toList.any isWildcard = false := by decide
  have hplain : ∀ c ∈ "a.b".toList, isWildcard c = false := by simpa using hwild
  have hspans : Matches .ascii (ofWildcard "a.b") "axb" := by
    rw [matches_ofWildcard (by simpa using hforeign)]
    have hdot : PlainStandsFor '.' 'x' := by
      unfold PlainStandsFor
      decide
    exact (partsSpan_plain hplain).2 ⟨rfl, .cons rfl (.cons hdot (.cons rfl .nil))⟩
  refine ⟨by decide +kernel, hspans, ?_⟩
  rw [wildcard_iff_eq hplain]
  decide

section

variable {tables : Tables} {front back : String}

theorem toList_bar (front back : String) :
    (front ++ "|" ++ back).toList = front.toList ++ '|' :: back.toList := by
  simp

variable (hfront : ∀ c ∈ front.toList, isForeign c = false ∧ isWildcard c = false)
  (hback : ∀ c ∈ back.toList, isForeign c = false ∧ isWildcard c = false)

include hfront hback

theorem isWildcard_of_mem_bar : ∀ c ∈ (front ++ "|" ++ back).toList, isWildcard c = false := by
  rw [toList_bar, List.forall_mem_append, List.forall_mem_cons]
  exact ⟨fun c hc => (hfront c hc).2, rfl, fun c hc => (hback c hc).2⟩

/-- A bar in a value without wildcards parts the pattern, and each branch keeps one of the two ends
only. -/
theorem read_ofWildcard_bar :
    read (ofWildcard (front ++ "|" ++ back)).toList = some (alternation [
      ofParts (assertion .lineStart :: front.toList.map (wildcardPart false)),
      ofParts (back.toList.map (wildcardPart false) ++ [assertion .lineEnd])]) := by
  have hplain : (front ++ "|" ++ back).toList.any isWildcard = false := by
    rw [List.any_eq_false]
    intro c hc
    rw [isWildcard_of_mem_bar hfront hback c hc]
    exact Bool.false_ne_true
  have hend {p : Progress} (hverbose : p.verbose = false) :
      Leads p (back.toList ++ ['$']) { p with
        parts := assertion .lineEnd ::
          ((back.toList.map (wildcardPart false)).reverse ++ p.parts) } :=
    .plains hverbose (fun c hc => (hback c hc).1) (fun c hc => (hback c hc).2)
      (.lineEnd hverbose (.nil hverbose))
  have hall := Leads.lineStart (p := ⟨false, [], [], []⟩) rfl
    (.plains rfl (fun c hc => (hfront c hc).1) (fun c hc => (hfront c hc).2) (.bar rfl (hend rfl)))
  rw [ofWildcard, wildcardBody, hplain, if_neg Bool.false_ne_true, toList_bar, String.toList_ofList,
    List.append_assoc, List.cons_append, read, hall _ (Nat.lt_succ_self _)]
  simp [Progress.result, Progress.push, Progress.branch, ofBranches]

/-- A value with a bar matches all names that begin with what stands in front of the bar, and all that
end with what follows it. -/
theorem matches_ofWildcard_bar {name : String} :
    Matches tables (ofWildcard (front ++ "|" ++ back)) name ↔
      ∃ first rest, name.toList = first ++ rest ∧
        (List.Forall₂ PlainStandsFor front.toList first ∨
          List.Forall₂ PlainStandsFor back.toList rest) := by
  have hbegins {before middle after : List Char} :
      PartsSpan tables (assertion .lineStart :: front.toList.map (wildcardPart false)) initialFlags
          before middle after ↔
        before = [] ∧ List.Forall₂ PlainStandsFor front.toList middle := by
    rw [partsSpan_lineStart, ← List.append_nil (front.toList.map _),
      partsSpan_plains fun c hc => (hfront c hc).2]
    simp [PartsSpan]
  have hends {before middle after : List Char} :
      PartsSpan tables (back.toList.map (wildcardPart false) ++ [assertion .lineEnd]) initialFlags
          before middle after ↔
        after = [] ∧ List.Forall₂ PlainStandsFor back.toList middle :=
    partsSpan_plain fun c hc => (hback c hc).2
  have hspans {before middle after : List Char} :
      Spans tables (alternation [
        ofParts (assertion .lineStart :: front.toList.map (wildcardPart false)),
        ofParts (back.toList.map (wildcardPart false) ++ [assertion .lineEnd])]) initialFlags
          before middle after ↔
        before = [] ∧ List.Forall₂ PlainStandsFor front.toList middle ∨
          after = [] ∧ List.Forall₂ PlainStandsFor back.toList middle := by
    have hleave : leaveAll initialFlags
        (assertion .lineStart :: front.toList.map (wildcardPart false)) = initialFlags :=
      leaveAll_plains initialFlags front.toList
    rw [Spans, BranchSpans, BranchSpans, BranchSpans, or_false, leave_ofParts, hleave,
      spans_ofParts, spans_ofParts, hbegins, hends]
  unfold Matches
  rw [read_ofWildcard_bar hfront hback]
  constructor
  · rintro ⟨pattern, before, middle, after, hpattern, hname, hmatch⟩
    cases hpattern
    obtain ⟨rfl, hfirst⟩ | ⟨rfl, hrest⟩ := hspans.1 hmatch
    · exact ⟨middle, after, by simpa using hname, .inl hfirst⟩
    · exact ⟨before, middle, by simpa using hname, .inr hrest⟩
  · rintro ⟨first, rest, hname, hfirst | hrest⟩
    · exact ⟨_, [], first, rest, rfl, by simpa using hname, hspans.2 (.inl ⟨rfl, hfirst⟩)⟩
    · exact ⟨_, first, rest, [], rfl, by simpa using hname, hspans.2 (.inr ⟨rfl, hrest⟩)⟩

/-- A bar leaves the two ends of a pattern to one branch each: the name in front of the bar is matched
with whatever follows it, and the one behind it with whatever precedes. Only what is on several lines
on both sides has no name on one line to match. -/
theorem meansWildcard_bar_iff (tables : Tables) :
    MeansWildcard tables (front ++ "|" ++ back) ↔ '\n' ∈ front.toList ∧ '\n' ∈ back.toList := by
  have hplain := isWildcard_of_mem_bar hfront hback
  have hbar : '|' ∈ (front ++ "|" ++ back).toList := by simp
  constructor
  · intro h
    constructor
    · by_contra hline
      -- What stands in front of the bar is matched, and is not the value, which has a bar in it.
      have hmatch : Matches tables (ofWildcard (front ++ "|" ++ back)) front :=
        (matches_ofWildcard_bar hfront hback).2 ⟨front.toList, [], by simp, .inl forall₂_plain_self⟩
      have hname := (wildcard_iff_eq hplain).1 ((h front hline).1 hmatch)
      rw [← hname] at hbar
      exact absurd (hfront _ hbar).1 (by decide)
    · by_contra hline
      have hmatch : Matches tables (ofWildcard (front ++ "|" ++ back)) back :=
        (matches_ofWildcard_bar hfront hback).2 ⟨[], back.toList, rfl, .inr forall₂_plain_self⟩
      have hname := (wildcard_iff_eq hplain).1 ((h back hline).1 hmatch)
      rw [← hname] at hbar
      exact absurd (hback _ hbar).1 (by decide)
  · rintro ⟨hfrontLine, hbackLine⟩ name hname
    rw [matches_ofWildcard_bar hfront hback, wildcard_iff_eq hplain, toList_bar]
    refine iff_of_false ?_ ?_
    · rintro ⟨first, rest, hsplit, hfirst | hrest⟩
      · exact hname (hsplit ▸ List.mem_append_left _ (newline_mem_of_forall₂ hfirst hfrontLine))
      · exact hname (hsplit ▸ List.mem_append_right _ (newline_mem_of_forall₂ hrest hbackLine))
    · intro hsame
      exact hname (hsame ▸ List.mem_append_left _ hfrontLine)

end

end Pattern
end Admission
