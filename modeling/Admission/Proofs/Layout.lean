import Admission.Proofs.Lines
import Admission.Yaml.Writer
import Mathlib.Tactic.SplitIfs

/-!
Where the lines of written data begin. Main statements: whatever the texts in a tree are, its text as
an item or as a value has no line that begins with a mark and ends at the start of a line; and the same
holds of the document that an object is written as.
-/

namespace Admission.Yaml

open LinePlace

/-- No character ends a line. -/
def IsOneLine (cs : List Char) : Prop := ∀ c ∈ cs, isBreak c = false

instance (cs : List Char) : Decidable (IsOneLine cs) :=
  List.decidableBAll (fun c => isBreak c = false) cs

theorem isOneLine_nil : IsOneLine [] := nofun

theorem isOneLine_cons {c : Char} {cs : List Char} :
    IsOneLine (c :: cs) ↔ isBreak c = false ∧ IsOneLine cs := List.forall_mem_cons

theorem isOneLine_append {front back : List Char} :
    IsOneLine (front ++ back) ↔ IsOneLine front ∧ IsOneLine back := List.forall_mem_append

theorem IsOneLine.cons {c : Char} {cs : List Char} (hc : isBreak c = false) (h : IsOneLine cs) :
    IsOneLine (c :: cs) := isOneLine_cons.2 ⟨hc, h⟩

theorem IsOneLine.append {front back : List Char} (hfront : IsOneLine front)
    (hback : IsOneLine back) : IsOneLine (front ++ back) := isOneLine_append.2 ⟨hfront, hback⟩

theorem isOneLine_replicate {c : Char} (hc : isBreak c = false) (n : Nat) :
    IsOneLine (List.replicate n c) := by
  intro x hx
  rw [List.eq_of_mem_replicate hx]
  exact hc

/-- Nothing between a space and a tilde ends a line. -/
theorem isBreak_of_ascii {c : Char} (hlow : 0x20 ≤ c.toNat) (hhigh : c.toNat ≤ 0x7E) :
    isBreak c = false := by
  refine Bool.eq_false_iff.2 fun h => ?_
  simp only [isBreak, Bool.or_eq_true, decide_eq_true_eq] at h
  rcases h with (((rfl | rfl) | rfl) | rfl) | rfl <;> revert hlow hhigh <;> decide

theorem isBreak_of_isDigit {c : Char} (h : c.isDigit = true) : isBreak c = false := by
  simp only [Char.isDigit, Bool.and_eq_true, decide_eq_true_eq, UInt32.le_iff_toNat_le] at h
  have hlow : 48 ≤ c.toNat := h.1
  have hhigh : c.toNat ≤ 57 := h.2
  exact isBreak_of_ascii (by omega) (by omega)

theorem isOneLine_toString (n : Nat) : IsOneLine (toString n).toList := by
  intro c hc
  rw [Nat.toString_eq_repr, Nat.toList_repr] at hc
  exact isBreak_of_isDigit (Nat.isDigit_of_mem_toDigits (by decide) (by decide) hc)

theorem isBreak_hexDigit {n : Nat} (h : n < 16) : isBreak (Nat.digitChar n).toUpper = false := by
  revert n
  decide

theorem isOneLine_hexDigits (places n : Nat) : IsOneLine (hexDigits places n) := by
  have hdigits (n : Nat) : IsOneLine ((Nat.toDigits 16 n).map Char.toUpper) := by
    induction n using Nat.strongRecOn with
    | ind n ih =>
      rw [Nat.toDigits_eq_if (by decide)]
      split
      · next hn => exact isOneLine_nil.cons (isBreak_hexDigit hn)
      · next hn =>
        have hlast := isBreak_hexDigit (Nat.mod_lt n (by decide : 0 < 16))
        rw [List.map_append]
        exact (ih (n / 16) (Nat.div_lt_self (by omega) (by decide))).append
          (isOneLine_nil.cons hlast)
  exact (isOneLine_replicate rfl _).append (hdigits n)

theorem isOneLine_toText (bits : UInt64) :
    IsOneLine (Number.Binary64.toText bits).toList := by
  unfold Number.Binary64.toText
  obtain ⟨m, e⟩ := Number.Binary64.parts (Number.Binary64.magnitude bits)
  have hsign (body : String) (h : IsOneLine body.toList) :
      IsOneLine (if Number.Binary64.isNegative bits then "-" ++ body else body).toList := by
    split
    · rw [String.toList_append]
      exact IsOneLine.append (by decide) h
    · exact h
  refine hsign _ ?_
  cases e with
  | ofNat e =>
    rw [String.toList_append]
    exact (isOneLine_toString _).append (by decide)
  | negSucc e =>
    -- The zeros at the end of a fraction are left out, but for one that stands alone.
    have hkept (cs : List Char) (h : IsOneLine cs) :
        let kept := (cs.reverse.dropWhile (· = '0')).reverse
        IsOneLine (String.ofList (if kept = [] then ['0'] else kept)).toList := by
      intro kept
      rw [String.toList_ofList]
      split
      · decide
      · intro c hc
        exact h c (List.mem_reverse.1 (List.dropWhile_subset _ (List.mem_reverse.1 hc)))
    rw [String.toList_append, String.toList_append]
    exact ((isOneLine_toString _).append (by decide)).append
      (hkept _ ((isOneLine_replicate rfl _).append (isOneLine_toString _)))

/-- What is neither a text nor a collection is written on one line. -/
theorem isOneLine_simpleChars (tree : Tree) : IsOneLine (simpleChars tree) := by
  unfold simpleChars
  split
  · decide
  · decide
  · decide
  · next n =>
    cases n with
    | ofNat n => exact isOneLine_toString n
    | negSucc n =>
      have hchars : (toString (Int.negSucc n)).toList = '-' :: (toString (n + 1)).toList := by
        change ("-" ++ toString (n + 1)).toList = _
        rw [String.toList_append]
        rfl
      rw [hchars]
      exact (isOneLine_toString (n + 1)).cons rfl
  · split
    · exact isOneLine_toText _
    · split
      · decide
      · split <;> decide
  · exact isOneLine_nil

/-- A text without quotes has no line end and does not begin like a mark. -/
theorem of_style_plain {isKey : Bool} {s : String} (h : style isKey s = .plain) :
    IsOneLine s.toList ∧ ['-', '-', '-'].isPrefixOf s.toList = false := by
  have hplain : allowsPlain s.toList = true := by
    unfold style at h
    dsimp only at h
    split_ifs at h with _ _ _ hplain
    exact (Bool.and_eq_true_iff.1 hplain).2
  simp only [allowsPlain, Bool.and_eq_true, Bool.not_eq_true', List.any_eq_false] at hplain
  obtain ⟨⟨⟨⟨-, hbreak⟩, hsign⟩, -⟩, -⟩ := hplain
  refine ⟨fun c hc => by simpa using hbreak c hc, ?_⟩
  cases hchars : s.toList with
  | nil => rfl
  | cons c cs =>
    simp only [hasSign, hchars, Bool.or_eq_false_iff] at hsign
    exact hsign.1.1.1.1

/-- A key that is not in double quotes has no line end. -/
theorem isOneLine_of_style_key {s : String} (h : style true s ≠ .double) :
    IsOneLine s.toList := by
  unfold style at h
  dsimp only at h
  unfold IsOneLine
  split_ifs at h <;> simp_all

/-- Behind a backslash no character that ends a line stands for itself. -/
theorem isOneLine_escaped (c : Char) : IsOneLine (escaped c) := by
  unfold escaped
  split
  · next letter h =>
    have hletter : isBreak letter = false := by
      unfold escapeLetter? at h
      split at h <;> cases h <;> rfl
    exact (isOneLine_nil.cons hletter).cons rfl
  · next h =>
    split
    · -- A break that could be shown has a letter.
      have hc : isBreak c = false := by
        refine Bool.eq_false_iff.2 fun hbreak => ?_
        simp only [isBreak, Bool.or_eq_true, decide_eq_true_eq] at hbreak
        rcases hbreak with (((rfl | rfl) | rfl) | rfl) | rfl <;> cases h
      exact isOneLine_nil.cons hc
    · split
      · exact IsOneLine.append (by decide) (isOneLine_hexDigits 2 c.toNat)
      · split
        · exact IsOneLine.append (by decide) (isOneLine_hexDigits 4 c.toNat)
        · exact IsOneLine.append (by decide) (isOneLine_hexDigits 8 c.toNat)

theorem isOneLine_flatMap_escaped (cs : List Char) : IsOneLine (cs.flatMap escaped) := by
  intro c hc
  obtain ⟨x, -, hx⟩ := List.mem_flatMap.1 hc
  exact isOneLine_escaped x c hx

/-- In single quotes, a text without line ends is on one line. -/
theorem IsOneLine.singleFrom {cs : List Char} (h : IsOneLine cs) (indent : Nat) :
    IsOneLine (singleFrom indent false cs) := by
  induction cs with
  | nil => exact isOneLine_nil
  | cons c cs ih =>
    obtain ⟨hc, hcs⟩ := isOneLine_cons.1 h
    have hquoted : IsOneLine (if c = '\'' then ['\'', '\''] else [c]) := by
      split
      · decide
      · exact isOneLine_nil.cons hc
    rw [Yaml.singleFrom, hc]
    exact hquoted.append (ih hcs)

/-- A key is on one line, which does not begin with a mark. -/
theorem keyChars_line (s : String) :
    IsOneLine (keyChars s) ∧ ['-', '-', '-'].isPrefixOf (keyChars s) = false := by
  unfold keyChars
  dsimp only
  split
  · next hplain => exact of_style_plain hplain
  · have hbody := (isOneLine_flatMap_escaped s.toList).append (isOneLine_nil.cons (c := '"') rfl)
    exact ⟨hbody.cons rfl, rfl⟩
  · next hdouble =>
    have hchars := (isOneLine_of_style_key hdouble).singleFrom 0
    exact ⟨(hchars.append (isOneLine_nil.cons rfl)).cons rfl, rfl⟩

/-- A key of any kind is on one line. -/
theorem isOneLine_nameChars : (tree : Tree) → IsOneLine (nameChars tree)
  | .text s => (keyChars_line s).1
  | .tagged _ tree => isOneLine_nameChars tree
  | .null | .bool _ | .int _ | .float _ | .list _ | .map _ | .unreadable =>
    isOneLine_simpleChars _

namespace LinePlace

def ofStart (isStart isFed : Bool) : LinePlace := if isStart then lineStart isFed else inLine

theorem ofStart_ne_marked (isStart isFed : Bool) : ofStart isStart isFed ≠ marked := by
  cases isStart <;> exact nofun

theorem step_ofStart {c : Char} (hc : isBreak c = false) (hdash : c ≠ '-')
    (isStart isFed : Bool) : (ofStart isStart isFed).step c = inLine := by
  cases isStart with
  | true => exact step_lineStart hc hdash isFed
  | false => exact step_inLine hc

/-- An indentation keeps what follows it from being a mark. -/
theorem walk_spaces {indent : Nat} (h : 0 < indent) (isStart isFed : Bool) :
    (ofStart isStart isFed).walk (spaces indent) = inLine := by
  obtain ⟨n, rfl⟩ := Nat.exists_eq_add_one.2 h
  rw [spaces, List.replicate_succ, walk_cons, step_ofStart rfl (by decide)]
  exact walk_inLine (isOneLine_replicate rfl n)

/-- A line feed ends every line that has no mark. -/
theorem step_feed {place : LinePlace} (h : place ≠ marked) :
    place.step '\n' = lineStart true := step_break h rfl

/-- Indented lines have no mark, and what is behind them depends on their last character alone. -/
theorem walk_indentedFrom {indent : Nat} (hindent : 0 < indent) (isStart isFed : Bool)
    (cs : List Char) :
    (ofStart isStart isFed).walk (indentedFrom indent isStart cs) =
      (cs.getLast?.map fun c => ofStart (isBreak c) (c = '\n')).getD (ofStart isStart isFed) := by
  induction cs generalizing isStart isFed with
  | nil => rfl
  | cons c cs ih =>
    have hbehind : (ofStart (isBreak c) (c = '\n')).walk (indentedFrom indent (isBreak c) cs) =
        ((c :: cs).getLast?.map fun c => ofStart (isBreak c) (c = '\n')).getD
          (ofStart isStart isFed) := by
      rw [ih, List.getLast?_cons]
      cases cs.getLast? <;> rfl
    rw [← hbehind, indentedFrom]
    cases hc : isBreak c with
    | true =>
      rw [if_pos rfl, walk_cons, step_break (ofStart_ne_marked _ _) hc]
      rfl
    | false =>
      rw [if_neg Bool.false_ne_true]
      cases isStart with
      | true =>
        rw [if_pos rfl, walk_append, walk_spaces hindent, walk_cons, step_inLine hc]
        rfl
      | false =>
        rw [if_neg Bool.false_ne_true, walk_cons]
        exact congrArg (walk · _) (step_inLine hc)

/-- Between single quotes every line is indented, the last one too. -/
theorem walk_singleFrom {indent : Nat} (hindent : 0 < indent) (isStart isFed : Bool)
    (cs : List Char) : (ofStart isStart isFed).walk (singleFrom indent isStart cs) = inLine := by
  induction cs generalizing isStart isFed with
  | nil =>
    cases isStart with
    | true => exact walk_spaces hindent true isFed
    | false => rfl
  | cons c cs ih =>
    rw [singleFrom]
    cases hc : isBreak c with
    | true =>
      rw [if_pos rfl, walk_cons, step_break (ofStart_ne_marked _ _) hc]
      exact ih true _
    | false =>
      have hindented : (ofStart isStart isFed).walk (if isStart then spaces indent else []) =
          inLine := by
        cases isStart with
        | true => exact walk_spaces hindent true isFed
        | false => rfl
      have hquoted : IsOneLine (if c = '\'' then ['\'', '\''] else [c]) := by
        split
        · decide
        · exact isOneLine_nil.cons hc
      rw [if_neg Bool.false_ne_true, walk_append, walk_append, hindented, walk_inLine hquoted]
      exact ih false true

end LinePlace

/-- Whether a line feed ends what is written for a text: only a block can end with another break. -/
def textEndsFed (s : String) : Bool :=
  style false s ≠ .block || s.toList.getLast?.all fun c => !isBreak c || c = '\n'

/-- The head of a block is a line. -/
theorem exists_blockHead (cs : List Char) :
    ∃ line, IsOneLine line ∧ blockHead cs = line ++ ['\n'] := by
  unfold blockHead
  dsimp only
  refine ⟨'|' :: (_ ++ _), ?_, rfl⟩
  refine IsOneLine.cons rfl (IsOneLine.append ?_ ?_)
  · split <;> decide
  · split
    · split
      · decide
      · split <;> decide
    · decide

/-- A text as a value has no mark, and ends its line. -/
theorem walk_scalarChars {indent : Nat} (hindent : 0 < indent) (s : String) :
    inLine.walk (scalarChars indent s) = lineStart (textEndsFed s) := by
  unfold scalarChars textEndsFed
  dsimp only
  cases hstyle : style false s with
  | plain =>
    dsimp only
    rw [walk_append, walk_inLine (of_style_plain hstyle).1]
    rfl
  | single =>
    dsimp only
    rw [walk_cons, walk_append, step_inLine rfl]
    exact congrArg (walk · ['\'', '\n']) (walk_singleFrom hindent false true s.toList)
  | double =>
    dsimp only
    rw [walk_cons, walk_append, step_inLine rfl, walk_inLine (isOneLine_flatMap_escaped _)]
    rfl
  | block =>
    dsimp only
    obtain ⟨line, hline, hhead⟩ := exists_blockHead s.toList
    have hbody := walk_indentedFrom hindent true true s.toList
    rw [hhead, walk_append, walk_append, walk_append, walk_inLine hline]
    change walk (walk (ofStart true true) _) _ = _
    rw [hbody]
    cases hlast : s.toList.getLast? with
    | none => rfl
    | some c =>
      cases hc : isBreak c with
      | true => simp [hc, ofStart]
      | false => simp [hc, ofStart, step_feed]

mutual

def endsFed : Tree → Bool
  | .text s => textEndsFed s
  | .list items => itemsEndFed true items
  | .map entries => entriesEndFed true entries
  | .tagged _ tree => endsFed tree
  | _ => true

def itemsEndFed (isFed : Bool) : List Tree → Bool
  | [] => isFed
  | item :: items => itemsEndFed (endsFed item) items

def entriesEndFed (isFed : Bool) : List (Tree × Tree) → Bool
  | [] => isFed
  | (_, value) :: entries => entriesEndFed (endsFed value) entries

end

theorem walk_simpleChars (tree : Tree) :
    inLine.walk (simpleChars tree ++ ['\n']) = lineStart true := by
  rw [walk_append, walk_inLine (isOneLine_simpleChars tree)]
  rfl

/-- Where the first item has reached its column, it stands as if it had been indented to it. -/
theorem walk_reached_sequence (column : Nat) (isFed : Bool) {items : List Tree} (h : items ≠ []) :
    inLine.walk (sequenceChars column true items) =
      (lineStart isFed).walk (sequenceChars column false items) := by
  obtain ⟨item, items, rfl⟩ := List.exists_cons_of_ne_nil h
  have hdash : (lineStart isFed).walk (spaces column ++ ['-'] ++ [' ']) = inLine := by
    cases column with
    | zero => rfl
    | succ n =>
      have hspaces := walk_spaces (Nat.succ_pos n) true isFed
      rw [List.append_assoc, walk_append]
      exact congrArg (walk · ['-', ' ']) hspaces
  rw [sequenceChars, sequenceChars, if_pos rfl, if_neg Bool.false_ne_true, List.nil_append,
    List.append_cons, List.append_cons, walk_append, hdash]
  rfl

theorem walk_reached_mapping {column : Nat} (hcolumn : 0 < column) (isFed : Bool)
    {entries : List (Tree × Tree)} (h : entries ≠ []) :
    inLine.walk (mappingChars column true entries) =
      (lineStart isFed).walk (mappingChars column false entries) := by
  obtain ⟨⟨key, value⟩, entries, rfl⟩ := List.exists_cons_of_ne_nil h
  rw [mappingChars, mappingChars, if_pos rfl, if_neg Bool.false_ne_true, List.nil_append,
    List.append_assoc, walk_append (lineStart isFed)]
  exact congrArg (walk · _) (walk_spaces hcolumn true isFed).symm

-- The recursion is that of the writer: the column grows on the way down, and so it is left open.
mutual

/-- A tree as an item has no mark, and ends its last line. -/
theorem walk_itemChars : (tree : Tree) → (column : Nat) →
    inLine.walk (itemChars column tree) = lineStart (endsFed tree)
  | .text s, column => walk_scalarChars (by omega) s
  | .list [], _ => rfl
  | .list (item :: items), column => by
    rw [endsFed, ← walk_sequenceChars (item :: items) (column + 2) true,
      ← walk_reached_sequence _ _ (List.cons_ne_nil _ _)]
    rfl
  | .map [], _ => rfl
  | .map (entry :: entries), column => by
    have hcolumn : 0 < column + 2 := by omega
    rw [endsFed, ← walk_mappingChars (entry :: entries) hcolumn true,
      ← walk_reached_mapping hcolumn _ (List.cons_ne_nil _ _)]
    rfl
  | .tagged _ tree, column => walk_itemChars tree column
  | .null, _ | .bool _, _ | .int _, _ | .float _, _ | .unreadable, _ =>
    walk_simpleChars _

theorem walk_valueChars : (tree : Tree) → (column : Nat) →
    inLine.walk (valueChars column tree) = lineStart (endsFed tree)
  | .text s, column => walk_scalarChars (by omega) s
  | .list [], _ => rfl
  | .list (item :: items), column => walk_sequenceChars (item :: items) column true
  | .map [], _ => rfl
  | .map (entry :: entries), column => walk_mappingChars (entry :: entries) (by omega) true
  | .tagged _ tree, column => walk_valueChars tree column
  | .null, _ | .bool _, _ | .int _, _ | .float _, _ | .unreadable, _ =>
    walk_simpleChars _

theorem walk_sequenceChars : (items : List Tree) → (column : Nat) → (isFed : Bool) →
    (lineStart isFed).walk (sequenceChars column false items) = lineStart (itemsEndFed isFed items)
  | [], _, _ => rfl
  | item :: items, column, isFed => by
    rw [← walk_reached_sequence column isFed (List.cons_ne_nil _ _), sequenceChars, if_pos rfl,
      List.nil_append, walk_cons, walk_cons, step_inLine rfl, step_inLine rfl, walk_append,
      walk_itemChars item column, walk_sequenceChars items column, itemsEndFed]

theorem walk_mappingChars : (entries : List (Tree × Tree)) → {column : Nat} → 0 < column →
    (isFed : Bool) → (lineStart isFed).walk (mappingChars column false entries) =
      lineStart (entriesEndFed isFed entries)
  | [], _, _, _ => rfl
  | (key, value) :: entries, column, hcolumn, isFed => by
    rw [← walk_reached_mapping hcolumn isFed (List.cons_ne_nil _ _), mappingChars, if_pos rfl,
      List.nil_append, walk_append, walk_inLine (isOneLine_nameChars key), walk_cons,
      step_inLine rfl, walk_append, walk_valueChars value column, walk_mappingChars entries hcolumn,
      entriesEndFed]

end

/-- A name in front of a colon is no mark, even where no indentation is in front of it. -/
theorem walk_name {name : List Char} (hline : IsOneLine name)
    (hmark : ['-', '-', '-'].isPrefixOf name = false) (isFed : Bool) :
    (lineStart isFed).walk (name ++ [':']) = inLine := by
  -- Three characters tell whether a line begins with a mark.
  rcases name with _ | ⟨c, _ | ⟨d, _ | ⟨e, rest⟩⟩⟩
  · rfl
  · by_cases hc : c = '-' <;> simp_all [isOneLine_cons, step, isBreak]
  · by_cases hc : c = '-' <;> by_cases hd : d = '-' <;> simp_all [isOneLine_cons, step, isBreak]
  · simp only [isOneLine_cons] at hline
    obtain ⟨hc, hd, he, hrest⟩ := hline
    have hplace : (((lineStart isFed).step c).step d).step e = inLine := by
      by_cases hc' : c = '-' <;> by_cases hd' : d = '-' <;> by_cases he' : e = '-' <;>
        simp_all [step]
    change walk ((((lineStart isFed).step c).step d).step e) (rest ++ [':']) = inLine
    rw [hplace]
    exact walk_inLine (hrest.append (by decide))

theorem walk_topEntries (isReached isFed : Bool) (entries : List (String × Tree)) :
    let pairs := entries.map fun e => (Tree.text e.1, e.2)
    (lineStart isFed).walk (mappingChars 0 isReached pairs) =
      lineStart (entriesEndFed isFed pairs) := by
  induction entries generalizing isReached isFed with
  | nil => rfl
  | cons entry entries ih =>
    obtain ⟨hline, hmark⟩ := keyChars_line entry.1
    have hname := walk_name hline hmark isFed
    have hindent : (if isReached then [] else spaces 0) = [] := by cases isReached <;> rfl
    intro pairs
    change (lineStart isFed).walk ((if isReached then [] else spaces 0) ++ keyChars entry.1 ++
      ':' :: (valueChars 0 entry.2 ++ mappingChars 0 false
        (entries.map fun e => (Tree.text e.1, e.2)))) = _
    rw [hindent, List.nil_append, List.append_cons, walk_append, hname, walk_append,
      walk_valueChars]
    exact ih false (endsFed entry.2)

/-- The document of an object has no mark, and ends its last line. -/
theorem walk_documentChars (isFed : Bool) (entries : List (String × Tree)) :
    (lineStart isFed).walk (documentChars (Tree.object entries)) =
      lineStart (endsFed (Tree.object entries)) := by
  cases entries with
  | nil => rfl
  | cons entry entries => exact walk_topEntries true isFed (entry :: entries)

end Admission.Yaml
