import Admission.Cel.Expression
import Admission.Json.Reader

/-!
The tokens of conditions. Main statement: the text of a condition is cut into the tokens of its
parts, whatever the literals in it hold and whatever comes after it.
-/

namespace Admission.Cel

inductive Token
  | word (s : String)
  | literal (s : String)
  | mark (c : Char)
  /-- The sign between the two parts of a conjunction. -/
  | both
  deriving DecidableEq, Repr

def isBlank (c : Char) : Bool := c ∈ [' ', '\t', '\n', '\x0c', '\r']

def isMark (c : Char) : Bool := c ∈ ['.', ',', '(', ')', '[', ']', '!']

def isWordChar (c : Char) : Bool := c.isAlphanum || c = '_'

def shortEscape? : Char → Option Char
  | 'a' => some '\x07'
  | 'b' => some '\x08'
  | 't' => some '\t'
  | 'n' => some '\n'
  | 'v' => some '\x0b'
  | 'f' => some '\x0c'
  | 'r' => some '\r'
  | '"' => some '"'
  | '\'' => some '\''
  | '`' => some '`'
  | '?' => some '?'
  | '\\' => some '\\'
  | _ => none

def charOf? (a b c d : Char) : Option Char := do
  let a ← Json.hexDigit? a
  let b ← Json.hexDigit? b
  let c ← Json.hexDigit? c
  let d ← Json.hexDigit? d
  let n := ((a * 16 + b) * 16 + c) * 16 + d
  if n.isValidChar then some (Char.ofNat n) else none

def literal? : List Char → Option (List Char × List Char)
  | [] => none
  | '"' :: cs => some ([], cs)
  | '\\' :: 'u' :: a :: b :: c :: d :: cs => do
    let c ← charOf? a b c d
    let (found, rest) ← literal? cs
    return (c :: found, rest)
  | '\\' :: c :: cs => do
    let c ← shortEscape? c
    let (found, rest) ← literal? cs
    return (c :: found, rest)
  | c :: cs =>
    if c ∈ ['\\', '\n', '\r'] then none
    else do
      let (found, rest) ← literal? cs
      return (c :: found, rest)

/-- Cuts characters into tokens, each of which takes one character at least. What stands directly
before a quote is no word and no literal, since it would say how the quoted text is spelled. -/
def tokensWithin : Nat → List Char → Option (List Token)
  | _, [] => some []
  | 0, _ :: _ => none
  | fuel + 1, c :: cs =>
    if isBlank c then tokensWithin fuel cs
    else if isMark c then (tokensWithin fuel cs).map (.mark c :: ·)
    else if c = '"' then do
      let (found, rest) ← literal? cs
      if rest.head? = some '"' then none
      else (tokensWithin fuel rest).map (.literal (String.ofList found) :: ·)
    else if c = '&' ∧ cs.head? = some '&' then (tokensWithin fuel cs.tail).map (.both :: ·)
    else if isWordChar c ∧ ¬ c.isDigit then
      let rest := cs.dropWhile isWordChar
      if rest.head? = some '"' then none
      else
        (tokensWithin fuel rest).map (.word (String.ofList (c :: cs.takeWhile isWordChar)) :: ·)
    else none

def tokens? (s : String) : Option (List Token) := tokensWithin s.toList.length s.toList

def Term.tokens : Term → List Token
  | .username => [.word "request", .mark '.', .word "userInfo", .mark '.', .word "username"]
  | .var v => [.word v.name]
  | .literal s => [.literal s]

def listTokens : List String → List Token
  | [] => [.mark ']']
  | [s] => [.literal s, .mark ']']
  | s :: t :: items => .literal s :: .mark ',' :: listTokens (t :: items)

def Collection.tokens : Collection → List Token
  | .groups => [.word "request", .mark '.', .word "userInfo", .mark '.', .word "groups"]
  | .literals items => .mark '[' :: listTokens items

def opening (subject : List Token) (method : String) : List Token :=
  subject ++ [.mark '.', .word method, .mark '(']

def Expression.tokens : Expression → List Token
  | .hasNamespace => [.word "has", .mark '(', .word "object", .mark '.', .word "metadata",
      .mark '.', .word "namespace", .mark ')']
  | .namespaceIn names => [.word "object", .mark '.', .word "metadata", .mark '.',
      .word "namespace", .word "in", .mark '['] ++ listTokens names
  | .matching subject pattern =>
    opening subject.tokens "matches" ++ pattern.tokens ++ [.mark ')']
  | .exist domain v body =>
    opening domain.tokens "exists" ++ [.word v.name, .mark ','] ++ body.tokens ++ [.mark ')']
  | .all domain v body =>
    opening domain.tokens "all" ++ [.word v.name, .mark ','] ++ body.tokens ++ [.mark ')']
  | .negation body => .mark '!' :: body.tokens
  | .conjunction left right => left.tokens ++ [.both] ++ right.tokens
  | .parenthesized body => [.mark '('] ++ body.tokens ++ [.mark ')']

theorem hexDigit?_digitChar {n : Nat} (h : n < 16) : Json.hexDigit? (Nat.digitChar n) = some n := by
  revert n
  decide

/-- A character that is written as it is, is read as it is. -/
theorem literal?_cons {c : Char} {cs found rest : List Char} (hc : c ∉ ['"', '\\', '\n', '\r'])
    (h : literal? cs = some (found, rest)) : literal? (c :: cs) = some (c :: found, rest) := by
  simp only [List.mem_cons, List.not_mem_nil, or_false, not_or] at hc
  rw [literal?.eq_def]
  split
  · contradiction
  all_goals simp_all

theorem literal?_escape {c : Char} {cs found rest : List Char}
    (h : literal? cs = some (found, rest)) :
    literal? (Json.escape c ++ cs) = some (c :: found, rest) := by
  unfold Json.escape
  split
  case h_8 hquote hback _ _ hline _ hreturn =>
    split
    · next hcontrol =>
      have hhigh := hexDigit?_digitChar (n := c.toNat / 16) (by omega)
      have hlow := hexDigit?_digitChar (n := c.toNat % 16) (by omega)
      have hn : ((0 * 16 + 0) * 16 + c.toNat / 16) * 16 + c.toNat % 16 = c.toNat := by omega
      have hchar : charOf? '0' '0' (c.toNat / 16).digitChar (c.toNat % 16).digitChar = some c := by
        have hzero : Json.hexDigit? '0' = some 0 := rfl
        simp only [charOf?, hzero, hhigh, hlow, Option.bind_eq_bind, Option.bind_some, hn]
        exact (if_pos c.valid).trans (congrArg some (Char.ofNat_toNat c))
      simp [literal?, hchar, h]
    · apply literal?_cons _ h
      simp only [List.mem_cons, List.not_mem_nil, or_false, not_or]
      exact ⟨hquote, hback, hline, hreturn⟩
  all_goals simp [literal?, shortEscape?, h]

/-- A quoted text is read as it was, up to its own closing quote. -/
theorem literal?_quoted (cs rest : List Char) :
    literal? (cs.flatMap Json.escape ++ '"' :: rest) = some (cs, rest) := by
  induction cs with
  | nil => rfl
  | cons c cs ih =>
    rw [List.flatMap_cons, List.append_assoc]
    exact literal?_escape ih

/-- Characters are cut into tokens, with any fuel that can suffice. -/
def Cuts (cs : List Char) (ts : List Token) : Prop :=
  ∀ fuel, cs.length ≤ fuel → tokensWithin fuel cs = some ts

/-- No word and no literal goes on with the characters. -/
def Ends (cs : List Char) : Prop := ∀ c ∈ cs.head?, isWordChar c = false ∧ c ≠ '"'

theorem ends_cons (c : Char) (hc : isWordChar c = false ∧ c ≠ '"') (cs : List Char) :
    Ends (c :: cs) := by
  rintro d (h : some c = some d)
  cases h
  exact hc

def isName : List Char → Bool
  | [] => false
  | c :: cs => isWordChar c && !c.isDigit && cs.all isWordChar

theorem not_special {c : Char} (h : isWordChar c = true) :
    isBlank c = false ∧ isMark c = false ∧ c ≠ '"' ∧ c ≠ '&' := by
  have hne {d : Char} (hd : isWordChar d = false) : c ≠ d := by
    rintro rfl
    rw [hd] at h
    cases h
  refine ⟨?_, ?_, hne (by decide), hne (by decide)⟩
  · simp only [isBlank, List.mem_cons, List.not_mem_nil, or_false, decide_eq_false_iff_not, not_or]
    exact ⟨hne (by decide), hne (by decide), hne (by decide), hne (by decide), hne (by decide)⟩
  · simp only [isMark, List.mem_cons, List.not_mem_nil, or_false, decide_eq_false_iff_not, not_or]
    exact ⟨hne (by decide), hne (by decide), hne (by decide), hne (by decide), hne (by decide),
      hne (by decide), hne (by decide)⟩

namespace Cuts

variable {cs cs' : List Char} {ts : List Token}

theorem nil : Cuts [] [] := by
  intro fuel _
  cases fuel <;> rfl

theorem blank (c : Char) (hc : isBlank c = true) (h : Cuts cs ts) : Cuts (c :: cs) ts := by
  intro fuel hfuel
  cases fuel with
  | zero => cases hfuel
  | succ fuel =>
    rw [tokensWithin, if_pos hc]
    exact h fuel (Nat.le_of_succ_le_succ hfuel)

/-- What takes one step to a token and characters that are cut into tokens. -/
theorem step {t : Token} (hlength : cs.length < cs'.length)
    (hstep : ∀ fuel, tokensWithin (fuel + 1) cs' = (tokensWithin fuel cs).map (t :: ·))
    (h : Cuts cs ts) : Cuts cs' (t :: ts) := by
  intro fuel hfuel
  cases fuel with
  | zero => omega
  | succ fuel =>
    rw [hstep, h fuel (by omega)]
    rfl

theorem mark (c : Char) (hc : isMark c = true) (h : Cuts cs ts) :
    Cuts (c :: cs) (.mark c :: ts) := by
  have hblank : isBlank c = false := by
    revert hc
    simp only [isMark, isBlank, decide_eq_true_eq, decide_eq_false_iff_not]
    simp only [List.mem_cons, List.not_mem_nil, or_false]
    rintro (rfl | rfl | rfl | rfl | rfl | rfl | rfl) <;> decide
  refine step (Nat.lt_succ_self _) (fun fuel => ?_) h
  rw [tokensWithin, hblank, if_neg Bool.false_ne_true, if_pos hc]

theorem both (h : Cuts cs ts) : Cuts ('&' :: '&' :: cs) (.both :: ts) := by
  refine step (Nat.lt_succ_of_lt (Nat.lt_succ_self _)) (fun fuel => ?_) h
  simp [tokensWithin, isBlank, isMark]

theorem literal (found : List Char) (hrest : cs.head? ≠ some '"') (h : Cuts cs ts) :
    Cuts (Json.quoteChars found ++ cs) (.literal (String.ofList found) :: ts) := by
  have hquote : Json.quoteChars found ++ cs =
      '"' :: (found.flatMap Json.escape ++ '"' :: cs) := by
    simp [Json.quoteChars]
  rw [hquote]
  refine step ?_ (fun fuel => ?_) h
  · simp only [List.length_cons, List.length_append]
    omega
  · rw [tokensWithin, if_neg (by decide), if_neg (by decide), if_pos rfl, literal?_quoted]
    simp [hrest]

/-- A word takes all characters up to where words and literals end. -/
theorem word (name : String) (hname : isName name.toList = true) (hcs : Ends cs)
    (h : Cuts cs ts) : Cuts (name.toList ++ cs) (.word name :: ts) := by
  have hend : cs.dropWhile isWordChar = cs ∧ cs.takeWhile isWordChar = [] := by
    cases cs with
    | nil => exact ⟨rfl, rfl⟩
    | cons d cs => simp [(hcs d rfl).1]
  have hnext : cs.head? ≠ some '"' := fun hhead => (hcs _ hhead).2 rfl
  obtain ⟨front, rfl⟩ : ∃ front, name = String.ofList front :=
    ⟨name.toList, String.ofList_toList.symm⟩
  rw [String.toList_ofList] at hname ⊢
  cases front with
  | nil => cases hname
  | cons c front =>
    simp only [isName, Bool.and_eq_true, Bool.not_eq_true'] at hname
    obtain ⟨⟨hc, hdigit⟩, hfront⟩ := hname
    obtain ⟨hblank, hmark, hquote, hboth⟩ := not_special hc
    have hdrop : (front ++ cs).dropWhile isWordChar = cs := by
      rw [List.dropWhile_append_of_pos (List.all_eq_true.1 hfront), hend.1]
    have htake : (front ++ cs).takeWhile isWordChar = front := by
      rw [List.takeWhile_append_of_pos (List.all_eq_true.1 hfront), hend.2, List.append_nil]
    refine step ?_ (fun fuel => ?_) h
    · simp only [List.cons_append, List.length_cons, List.length_append]
      omega
    · simp [tokensWithin, hblank, hmark, hquote, hboth, hc, hdigit, hdrop, htake, hnext]

end Cuts

section
variable {cs : List Char} {ts : List Token}

theorem cuts_quote (s : String) (hcs : cs.head? ≠ some '"') (h : Cuts cs ts) :
    Cuts ((Json.quote s).toList ++ cs) (.literal s :: ts) := by
  have hquoted := h.literal s.toList hcs
  rw [String.ofList_toList] at hquoted
  rw [Json.quote, String.toList_ofList]
  exact hquoted

/-- A dot, the name of a method and its opening parenthesis. -/
theorem cuts_method (name : String) (hname : isName name.toList = true) (h : Cuts cs ts) :
    Cuts ('.' :: (name.toList ++ '(' :: cs)) (.mark '.' :: .word name :: .mark '(' :: ts) := by
  have hopen := Cuts.mark '(' (by decide) h
  have hword := Cuts.word name hname (ends_cons '(' (by decide) _) hopen
  exact .mark '.' (by decide) hword

/-- The names in a path to a part of the request. -/
theorem cuts_path (first second third : String) (hfirst : isName first.toList = true)
    (hsecond : isName second.toList = true) (hthird : isName third.toList = true) (hcs : Ends cs)
    (h : Cuts cs ts) :
    Cuts (first.toList ++ '.' :: (second.toList ++ '.' :: (third.toList ++ cs)))
      (.word first :: .mark '.' :: .word second :: .mark '.' :: .word third :: ts) := by
  have hdot (cs : List Char) : Ends ('.' :: cs) := ends_cons '.' (by decide) cs
  apply Cuts.word first hfirst (hdot _)
  apply Cuts.mark '.' (by decide)
  apply Cuts.word second hsecond (hdot _)
  apply Cuts.mark '.' (by decide)
  exact Cuts.word third hthird hcs h

theorem cuts_var (v : Var) (hcs : Ends cs) (h : Cuts cs ts) :
    Cuts (v.name.toList ++ cs) (.word v.name :: ts) := by
  refine Cuts.word v.name ?_ hcs h
  cases v <;> decide

theorem Term.cuts (t : Term) (hcs : Ends cs) (h : Cuts cs ts) :
    Cuts (t.render.toList ++ cs) (t.tokens ++ ts) := by
  cases t with
  | username =>
    exact cuts_path "request" "userInfo" "username" (by decide) (by decide) (by decide) hcs h
  | var v => exact cuts_var v hcs h
  | literal s => exact cuts_quote s (fun hhead => (hcs _ hhead).2 rfl) h

/-- The items of a list and its closing bracket, with any blanks behind the commas. -/
theorem cuts_listTokens {separator : String} {blanks : List Char}
    (hseparator : separator.toList = ',' :: blanks) (hblanks : ∀ c ∈ blanks, isBlank c = true)
    (items : List String) (h : Cuts cs ts) :
    Cuts ((quotedList separator items).toList ++ ']' :: cs) (listTokens items ++ ts) := by
  have hskip {cs ts} (h : Cuts cs ts) : Cuts (blanks ++ cs) ts := by
    clear hseparator
    induction blanks with
    | nil => exact h
    | cons c blanks ih =>
      rw [List.forall_mem_cons] at hblanks
      exact .blank c hblanks.1 (ih hblanks.2)
  unfold quotedList
  induction items with
  | nil => exact .mark ']' (by decide) h
  | cons s items ih =>
    cases items with
    | nil =>
      rw [List.map_singleton, String.intercalate_singleton]
      exact cuts_quote s (by simp) (.mark ']' (by decide) h)
    | cons t items =>
      rw [List.map_cons, List.map_cons, String.intercalate_cons_cons, ← List.map_cons]
      rw [String.toList_append, String.toList_append, hseparator, List.append_assoc,
        List.append_assoc]
      exact cuts_quote s (by simp) (.mark ',' (by decide) (hskip ih))

theorem Collection.cuts (d : Collection) (hcs : Ends cs) (h : Cuts cs ts) :
    Cuts (d.render.toList ++ cs) (d.tokens ++ ts) := by
  cases d with
  | groups =>
    exact cuts_path "request" "userInfo" "groups" (by decide) (by decide) (by decide) hcs h
  | literals items =>
    have hrender : (Collection.literals items).render.toList ++ cs =
        '[' :: ((quotedList "," items).toList ++ ']' :: cs) := by
      simp [Collection.render]
    rw [hrender]
    exact .mark '[' (by decide) (cuts_listTokens rfl (List.forall_mem_nil _) items h)

/-- A quantifier around what is cut into tokens itself. -/
theorem cuts_quantifier {method : String} (name : String) (hname : isName name.toList = true)
    (hmethod : method.toList = '.' :: (name.toList ++ ['('])) (d : Collection) (v : Var)
    {body : String} {inside : List Token}
    (h : Cuts (body.toList ++ ')' :: cs) (inside ++ .mark ')' :: ts)) :
    Cuts ((d.render ++ method ++ v.name ++ ", " ++ body ++ ")").toList ++ cs)
      (opening d.tokens name ++ [.word v.name, .mark ','] ++ inside ++ [.mark ')'] ++ ts) := by
  have hrender : (d.render ++ method ++ v.name ++ ", " ++ body ++ ")").toList ++ cs =
      d.render.toList ++ '.' :: (name.toList ++ '(' :: (v.name.toList ++ ',' :: ' ' ::
        (body.toList ++ ')' :: cs))) := by
    simp [hmethod]
  have hcomma := Cuts.mark ',' (by decide) (Cuts.blank ' ' (by decide) h)
  have hvar := cuts_method name hname (cuts_var v (ends_cons ',' (by decide) _) hcomma)
  have hdomain := d.cuts (ends_cons '.' (by decide) _) hvar
  rw [hrender]
  simpa [opening] using hdomain

/-- A rendered condition is cut into its tokens, whatever comes after it. -/
theorem Expression.cuts (e : Expression) (h : Cuts cs ts) :
    Cuts (e.render.toList ++ cs) (e.tokens ++ ts) := by
  induction e generalizing cs ts with
  | hasNamespace =>
    have hpath := cuts_path "object" "metadata" "namespace" (by decide) (by decide) (by decide)
      (ends_cons ')' (by decide) _) (.mark ')' (by decide) h)
    have hopen := Cuts.mark '(' (by decide) hpath
    exact Cuts.word "has" (by decide) (ends_cons '(' (by decide) _) hopen
  | namespaceIn names =>
    have hrender (front : String) : (front ++ quotedList ", " names ++ "]").toList ++ cs =
        front.toList ++ ((quotedList ", " names).toList ++ ']' :: cs) := by
      simp
    have hseparator : ", ".toList = [',', ' '] := rfl
    have hitems := cuts_listTokens hseparator (List.forall_mem_singleton.2 rfl) names h
    have hopen := Cuts.blank ' ' (by decide) (Cuts.mark '[' (by decide) hitems)
    have hin := Cuts.word "in" (by decide) (ends_cons ' ' (by decide) _) hopen
    refine (hrender "object.metadata.namespace in [").symm ▸ ?_
    exact cuts_path "object" "metadata" "namespace" (by decide) (by decide) (by decide)
      (ends_cons ' ' (by decide) _) (.blank ' ' (by decide) hin)
  | matching subject pattern =>
    have hrender : (subject.render ++ ".matches(" ++ pattern.render ++ ")").toList ++ cs =
        subject.render.toList ++ '.' :: ("matches".toList ++ '(' ::
          (pattern.render.toList ++ ')' :: cs)) := by
      simp
    have hpattern := pattern.cuts (ends_cons ')' (by decide) _) (.mark ')' (by decide) h)
    have hmethod := cuts_method "matches" (by decide) hpattern
    have hsubject := subject.cuts (ends_cons '.' (by decide) _) hmethod
    refine hrender.symm ▸ ?_
    simpa [tokens, opening] using hsubject
  | exist domain v body ih =>
    exact cuts_quantifier "exists" (by decide) rfl domain v (ih (.mark ')' (by decide) h))
  | all domain v body ih =>
    exact cuts_quantifier "all" (by decide) rfl domain v (ih (.mark ')' (by decide) h))
  | negation body ih =>
    have hrender : ("!" ++ body.render).toList ++ cs = '!' :: (body.render.toList ++ cs) := by
      simp
    refine hrender.symm ▸ ?_
    exact .mark '!' (by decide) (ih h)
  | conjunction left right hleft hright =>
    have hrender : (left.render ++ " && " ++ right.render).toList ++ cs = left.render.toList ++
        ' ' :: '&' :: '&' :: ' ' :: (right.render.toList ++ cs) := by
      simp
    have hparts := hleft (.blank ' ' (by decide) (.both (.blank ' ' (by decide) (hright h))))
    refine hrender.symm ▸ ?_
    simpa [tokens] using hparts
  | parenthesized body ih =>
    have hrender : ("(" ++ body.render ++ ")").toList ++ cs =
        '(' :: (body.render.toList ++ ')' :: cs) := by
      simp
    have hbody := Cuts.mark '(' (by decide) (ih (Cuts.mark ')' (by decide) h))
    refine hrender.symm ▸ ?_
    simpa [tokens] using hbody

end

end Admission.Cel
