import Admission.Proofs.Loading
import Admission.Proofs.Record

/-!
The two forms of exports. Main statement: rules load the same from either form, whatever a form may
leave out and however the rules are spread over documents, and the readers of the forms take the
same things from the same fields; a stream with a broken document gives no rules.
-/

namespace Admission

namespace Tree

variable {α : Type} {read other : Tree → Option α}

theorem optional_eq_some {value : Option Tree} {a : Option α} : optional read value = some a ↔
    ((value = none ∨ value = some .null) ∧ a = none) ∨
      ∃ tree, value = some tree ∧ tree ≠ .null ∧ ∃ x, read tree = some x ∧ a = some x := by
  cases value with
  | none => simp [optional, eq_comm]
  | some tree => cases tree <;> simp [optional, eq_comm]

/-- What has a default in one form and may be left out in the other comes to the same. -/
theorem getD_of_optional {default : α} {value : Option Tree} {a : α} {b : Option α}
    (hnull : read .null = none) (ha : withDefault default read value = some a)
    (hb : optional read value = some b) : b.getD default = a := by
  obtain ⟨rfl | rfl, rfl⟩ | ⟨tree, rfl, -, x, hx, rfl⟩ := optional_eq_some.1 hb
  · exact Option.some.inj ha
  · have habsurd : read .null = some a := ha
    rw [hnull] at habsurd
    cases habsurd
  · have hread : read tree = some a := ha
    rw [hx] at hread
    exact Option.some.inj hread

/-- The readers never take different values from one tree. -/
def Agree (read other : Tree → Option α) : Prop :=
  ∀ tree a b, read tree = some a → other tree = some b → a = b

theorem Agree.mapM (h : Agree read other) {trees : List Tree} {as bs : List α}
    (ha : trees.mapM read = some as) (hb : trees.mapM other = some bs) : as = bs := by
  rw [mapM_eq_some] at ha hb
  induction ha generalizing bs with
  | nil =>
    cases hb
    rfl
  | cons ha _ ih =>
    cases hb with
    | cons hb hbs => rw [h _ _ _ ha hb, ih hbs]

theorem Agree.optional (h : Agree read other) {value : Option Tree} {a b : Option α}
    (ha : optional read value = some a) (hb : Tree.optional other value = some b) : a = b := by
  obtain ⟨hempty, rfl⟩ | ⟨tree, rfl, hne, x, hx, rfl⟩ := optional_eq_some.1 ha
  · obtain ⟨-, rfl⟩ | ⟨tree, rfl, hne, -⟩ := optional_eq_some.1 hb
    · rfl
    · simp [hne] at hempty
  · obtain ⟨hempty, -⟩ | ⟨tree', htree, -, y, hy, rfl⟩ := optional_eq_some.1 hb
    · simp [hne] at hempty
    · cases htree
      rw [h tree x y hx hy]

/-- Whether a tree is a key depends on nothing else in the form. -/
theorem isKey_congr {form form' : RecordForm} (h : form.byPosition = form'.byPosition) :
    (key : Tree) → key.isKey form = key.isKey form'
  | text _ => rfl
  | int n => by
    unfold isKey
    rw [h]
  | tagged _ key => isKey_congr h key
  | null | bool _ | float _ | list _ | map _ | unreadable => rfl

end Tree

namespace Export

open Admission.Tree

/-- What is a list in exports of the interface is a list in resources too. -/
theorem Agree.listOf? {α : Type} {read other : Tree → Option α} (h : Agree read other) :
    Agree (listOf? interfaceForm read) (Tree.listOf? resourceForm other) := by
  intro tree as bs has hbs
  unfold Tree.listOf? at has hbs
  obtain ⟨items, hitems, has⟩ := Option.bind_eq_some_iff.1 has
  have hsame : tree.items? resourceForm = some items := by
    unfold items? at hitems ⊢
    split at hitems
    · exact hitems
    · cases hitems
    · cases hitems
  rw [hsame] at hbs
  exact h.mapM has hbs

theorem fields_agree {tree : Tree} {names : List FieldNames} {values others : List (Option Tree)}
    (h : tree.fields interfaceForm names = some values)
    (hother : tree.fields resourceForm names = some others) : values = others := by
  have hforms : interfaceForm.byPosition = resourceForm.byPosition := rfl
  have hkeys (key : Tree) : key.isKey interfaceForm = key.isKey resourceForm :=
    isKey_congr hforms key
  unfold fields at h hother
  cases huntag : tree.untag with
  | map entries =>
    simp only [huntag, hkeys] at h hother
    rw [h] at hother
    exact Option.some.inj hother
  | list items =>
    rw [huntag] at hother
    cases hother
  | _ =>
    rw [huntag] at h
    cases h

theorem criterionWithin_agree (fuel : Nat) :
    Agree (criterionWithin interfaceForm fuel) (criterionWithin resourceForm fuel) := by
  induction fuel with
  | zero => exact fun tree a b ha => nomatch ha
  | succ fuel ih =>
    intro tree a b ha hb
    unfold criterionWithin at ha hb
    split at ha
    case h_2 => cases ha
    case h_1 name operator value parts hvalues =>
      split at hb
      case h_2 => cases hb
      case h_1 name' operator' value' parts' hothers =>
        have hsame := fields_agree hvalues hothers
        cases hsame
        simp only [bind, Option.bind_eq_some_iff, pure, Option.some.injEq] at ha hb
        obtain ⟨n, hn, o, ho, v, hv, ps, hps, rfl⟩ := ha
        obtain ⟨n', hn', o', ho', v', hv', ps', hps', rfl⟩ := hb
        have hparts : ps = ps' := Agree.optional (Agree.listOf? ih) hps hps'
        cases hn.symm.trans hn'
        cases ho.symm.trans ho'
        cases hv.symm.trans hv'
        cases hparts
        rfl

theorem criteria?_agree {value : Option Tree} {es es' : Option (List ExportedCriterion)}
    (h : criteria? interfaceForm value = some es) (h' : criteria? resourceForm value = some es') :
    es = es' :=
  Tree.Agree.optional (Agree.listOf? fun tree => criterionWithin_agree (tree.depth + 1) tree) h h'

inductive RuleField
  | id
  | comment
  | criteria
  | disabled
  | kind
  | mode
  deriving DecidableEq

namespace RuleField

def interfaceName : RuleField → String
  | id => "id"
  | comment => "comment"
  | criteria => "criteria"
  | disabled => "disable"
  | kind => "rule_type"
  | mode => "rule_mode"

/-- In resources the id has two names. -/
def resourceName (idName : String) : RuleField → String
  | id => idName
  | comment => "comment"
  | criteria => "criteria"
  | disabled => "disabled"
  | kind => "action"
  | mode => "rule_mode"

def value? (given : List (RuleField × Tree)) (field : RuleField) : Option (Option Tree) :=
  match given.filter fun entry => entry.1 = field with
  | [] => some none
  | [entry] => some (some entry.2)
  | _ => none

def record (name : RuleField → String) (given : List (RuleField × Tree)) : Tree :=
  .object (given.map fun entry => (name entry.1, entry.2))

variable {name : RuleField → String} {names : RuleField → FieldNames}

theorem field?_record {field : RuleField}
    (h : ∀ f, (names field).contains (name f) = true ↔ f = field)
    (given : List (RuleField × Tree)) (position : Nat) :
    field? (given.map fun entry => (Tree.text (name entry.1), entry.2)) (names field) position =
      value? given field := by
  have hfilter : (given.map fun entry => (Tree.text (name entry.1), entry.2)).filter
        (fun e => e.1.addresses (names field) position) =
      (given.filter fun entry => entry.1 = field).map
        fun entry => (Tree.text (name entry.1), entry.2) := by
    rw [List.filter_map]
    refine congrArg _ (List.filter_congr fun entry _ => ?_)
    change (names field).contains (name entry.1) = decide (entry.1 = field)
    rw [Bool.eq_iff_iff, h, decide_eq_true_iff]
  unfold field? value?
  rw [hfilter]
  generalize given.filter (fun entry => entry.1 = field) = found
  rcases found with _ | ⟨entry, _ | ⟨next, rest⟩⟩ <;> rfl

/-- Where the names tell the fields apart, a record gives back the value of each. -/
theorem fields_record (h : ∀ f field, (names field).contains (name f) = true ↔ f = field)
    (form : RecordForm) (given : List (RuleField × Tree)) (order : List RuleField) :
    (record name given).fields form (order.map names) = order.mapM (value? given) := by
  have hfrom (position : Nat) :
      fieldsFrom (given.map fun entry => (Tree.text (name entry.1), entry.2)) position
        (order.map names) = order.mapM (value? given) := by
    induction order generalizing position with
    | nil => rfl
    | cons field order ih =>
      rw [List.map_cons, fieldsFrom, field?_record fun f => h f field, List.mapM_cons, ih]
  have hkeys : (given.map fun entry => (Tree.text (name entry.1), entry.2)).all
      (fun e => e.1.isKey form) = true := by
    rw [List.all_map, List.all_eq_true]
    exact fun _ _ => rfl
  unfold record object fields
  rw [List.map_map]
  exact (if_pos hkeys).trans (hfrom 0)

end RuleField

open RuleField in
theorem interfaceRule?_record {given : List (RuleField × Tree)} {rule : InterfaceRule}
    (h : interfaceRule? (record interfaceName given) = some rule) :
    (value? given .id).bind (optional word?) = some rule.id ∧
    (value? given .comment).bind (withDefault "" text?) = some rule.comment ∧
    (value? given .criteria).bind (criteria? interfaceForm) = some rule.criteria ∧
    (value? given .disabled).bind (withDefault false bool?) = some rule.disabled ∧
    (value? given .kind).bind (optional text?) = some rule.kind ∧
    (value? given .mode).bind (optional text?) = some rule.mode := by
  have hnames (f field : RuleField) :
      [interfaceName field].contains (interfaceName f) = true ↔ f = field := by
    cases f <;> cases field <;> decide
  have hfields : (record interfaceName given).fields interfaceForm
      [["id"], ["comment"], ["criteria"], ["disable"], ["rule_type"], ["rule_mode"]] =
        [.id, .comment, .criteria, .disabled, .kind, .mode].mapM (value? given) :=
    fields_record hnames interfaceForm given [.id, .comment, .criteria, .disabled, .kind, .mode]
  unfold interfaceRule? at h
  rw [hfields] at h
  split at h
  case h_2 => cases h
  case h_1 id comment criteria disabled kind mode hvalues =>
    simp only [mapM_eq_some, List.forall₂_cons] at hvalues
    obtain ⟨hid, hcomment, hcriteria, hdisabled, hkind, hmode, -⟩ := hvalues
    simp only [bind, pure, Option.bind_eq_some_iff, Option.some.injEq] at h
    obtain ⟨i, hi, c, hc, cs, hcs, d, hd, k, hk, m, hm, rfl⟩ := h
    rw [hid, hcomment, hcriteria, hdisabled, hkind, hmode]
    exact ⟨hi, hc, hcs, hd, hk, hm⟩

open RuleField in
theorem resourceRule?_record {idName : String} (hname : idName ∈ ["id", "conversion_id_ref"])
    {given : List (RuleField × Tree)} {rule : ResourceRule}
    (h : resourceRule? (record (resourceName idName) given) = some rule) :
    (value? given .id).bind (optional word?) = some rule.id ∧
    (value? given .kind).bind (optional text?) = some rule.kind ∧
    (value? given .comment).bind (optional text?) = some rule.comment ∧
    (value? given .criteria).bind (criteria? resourceForm) = some rule.criteria ∧
    (value? given .disabled).bind (optional bool?) = some rule.disabled ∧
    (value? given .mode).bind (optional text?) = some rule.mode := by
  have hnames (f field : RuleField) :
      (if field = .id then ["id", "conversion_id_ref"] else [resourceName idName field]).contains
        (resourceName idName f) = true ↔ f = field := by
    simp only [List.mem_cons, List.not_mem_nil, or_false] at hname
    obtain rfl | rfl := hname <;> cases f <;> cases field <;> decide
  have hfields : (record (resourceName idName) given).fields resourceForm
      [["id", "conversion_id_ref"], ["action"], ["comment"], ["criteria"], ["disabled"],
        ["rule_mode"]] =
        [.id, .kind, .comment, .criteria, .disabled, .mode].mapM (value? given) :=
    fields_record hnames resourceForm given [.id, .kind, .comment, .criteria, .disabled, .mode]
  unfold resourceRule? at h
  rw [hfields] at h
  split at h
  case h_2 => cases h
  case h_1 id kind comment criteria disabled mode hvalues =>
    simp only [mapM_eq_some, List.forall₂_cons] at hvalues
    obtain ⟨hid, hkind, hcomment, hcriteria, hdisabled, hmode, -⟩ := hvalues
    simp only [bind, pure, Option.bind_eq_some_iff, Option.some.injEq] at h
    obtain ⟨i, hi, k, hk, c, hc, cs, hcs, d, hd, m, hm, rfl⟩ := h
    rw [hid, hkind, hcomment, hcriteria, hdisabled, hmode]
    exact ⟨hi, hk, hc, hcs, hd, hm⟩

/-- The rules of the two forms say the same, where what one leaves out may be empty in the other. -/
structure ResourceRule.SaysSame (rule : ResourceRule) (other : InterfaceRule) : Prop where
  id : rule.id = other.id
  comment : rule.comment.getD "" = other.comment
  criteria : ∀ criteria, DenotesAll rule.criteria criteria ↔ DenotesAll other.criteria criteria
  disabled : rule.disabled.getD false = other.disabled
  kind : rule.kind.getD "" = other.kind.getD ""
  mode : rule.mode.getD "" = other.mode.getD ""

theorem ResourceRule.SaysSame.toExported_eq {rule : ResourceRule} {other : InterfaceRule}
    (h : rule.SaysSame other) : rule.toExported = other.toExported := by
  have hcriteria : optionToCriteria rule.criteria = optionToCriteria other.criteria := by
    rw [← denotesAll_iff, ← h.criteria]
    exact denotesAll_optionToCriteria rule.criteria
  have hkind : kindOf rule.kind = kindOf other.kind := by
    rw [kindOf_eq, kindOf_eq, h.kind]
  have hmode : modeOf rule.mode = modeOf other.mode := by
    rw [modeOf_eq, modeOf_eq, h.mode]
  unfold toExported InterfaceRule.toExported
  rw [h.id, h.comment, hcriteria, h.disabled, hkind, hmode]

theorem exists_of_bind_of_bind {α β γ : Type} {o : Option α} {f : α → Option β} {g : α → Option γ}
    {b : β} {c : γ} (hf : o.bind f = some b) (hg : o.bind g = some c) :
    ∃ a, f a = some b ∧ g a = some c := by
  obtain ⟨a, rfl, ha⟩ := Option.bind_eq_some_iff.1 hf
  exact ⟨a, ha, hg⟩

/-- From the same values under the names of either form the readers take the same. -/
theorem ResourceRule.saysSame_of_record {idName : String}
    (hname : idName ∈ ["id", "conversion_id_ref"]) {given : List (RuleField × Tree)}
    {rule : ResourceRule} {other : InterfaceRule}
    (hrule : resourceRule? (RuleField.record (RuleField.resourceName idName) given) = some rule)
    (hother : interfaceRule? (RuleField.record RuleField.interfaceName given) = some other) :
    rule.SaysSame other := by
  obtain ⟨hid, hkind, hcomment, hcriteria, hdisabled, hmode⟩ := resourceRule?_record hname hrule
  obtain ⟨hid', hcomment', hcriteria', hdisabled', hkind', hmode'⟩ := interfaceRule?_record hother
  obtain ⟨_, hcomment, hcomment'⟩ := exists_of_bind_of_bind hcomment hcomment'
  obtain ⟨_, hdisabled, hdisabled'⟩ := exists_of_bind_of_bind hdisabled hdisabled'
  obtain ⟨_, hcriteria, hcriteria'⟩ := exists_of_bind_of_bind hcriteria hcriteria'
  have hsame : other.criteria = rule.criteria := criteria?_agree hcriteria' hcriteria
  constructor
  · exact Option.some.inj (hid.symm.trans hid')
  · exact getD_of_optional rfl hcomment' hcomment
  · intro criteria
    rw [hsame]
  · exact getD_of_optional rfl hdisabled' hdisabled
  · rw [Option.some.inj (hkind.symm.trans hkind')]
  · rw [Option.some.inj (hmode.symm.trans hmode')]

theorem map_toExported_eq {rules : List ResourceRule} {others : List InterfaceRule}
    (h : List.Forall₂ ResourceRule.SaysSame rules others) :
    rules.map ResourceRule.toExported = others.map InterfaceRule.toExported := by
  induction h with
  | nil => rfl
  | cons hrule _ ih => rw [List.map_cons, List.map_cons, hrule.toExported_eq, ih]

mutual

def ExportedCriterion.decEq : (e e' : ExportedCriterion) → Decidable (e = e')
  | ⟨name, operator, value, parts⟩, ⟨name', operator', value', parts'⟩ =>
    have := decEqOption parts parts'
    decidable_of_iff (name = name' ∧ operator = operator' ∧ value = value' ∧ parts = parts')
      (by rw [ExportedCriterion.mk.injEq])

def decEqOption : (es es' : Option (List ExportedCriterion)) → Decidable (es = es')
  | none, none => isTrue rfl
  | some es, some es' =>
    have := decEqList es es'
    decidable_of_iff (es = es') (by rw [Option.some.injEq])
  | none, some _ | some _, none => isFalse nofun

def decEqList : (es es' : List ExportedCriterion) → Decidable (es = es')
  | [], [] => isTrue rfl
  | e :: es, e' :: es' =>
    have := e.decEq e'
    have := decEqList es es'
    decidable_of_iff (e = e' ∧ es = es') (by rw [List.cons.injEq])
  | [], _ :: _ | _ :: _, [] => isFalse nofun

end

instance : DecidableEq ExportedCriterion := ExportedCriterion.decEq

deriving instance DecidableEq for InterfaceRule, ResourceRule, Document

def interfaceRules? (s : String) : Option (List InterfaceRule) :=
  ((Json.read s).bind interface?).map fun rules => rules.getD []

def documentsIn (s : String) : List Document :=
  (Yaml.documents s).map fun document => .ofTree document.soundValue?

theorem Dialect.exported_resources (s : String) :
    Dialect.resources.exported s = exportedFrom 0 (documentsIn s) := rfl

theorem Dialect.read_interface_eq_ok {s : String} {exported : List InterfaceRule}
    (h : interfaceRules? s = some exported) :
    Dialect.interface.read s = .ok (numbered (exported.map InterfaceRule.toExported)) := by
  obtain ⟨rules, hrules, rfl⟩ := Option.map_eq_some_iff.1 h
  have hexported : Dialect.interface.exported s =
      .ok ((rules.getD []).map InterfaceRule.toExported) := by
    simp only [Dialect.exported, hrules]
  rw [Dialect.read_eq, hexported]
  rfl

theorem Dialect.read_resources_eq_ok {s : String} (h : .broken ∉ documentsIn s) :
    Dialect.resources.read s = .ok (numbered
      (((documentsIn s).flatMap Document.rules).map ResourceRule.toExported)) := by
  rw [Dialect.read_eq, Dialect.exported_resources, exportedFrom_eq_ok h]
  rfl

theorem Dialect.read_resources_eq_error {s : String} {front back : List Document}
    (h : documentsIn s = front ++ .broken :: back) (hfront : .broken ∉ front) :
    Dialect.resources.read s = .error (.input (.notYaml front.length)) := by
  rw [Dialect.read_eq, Dialect.exported_resources, h, exportedFrom_eq_error hfront, Nat.zero_add]
  rfl

/-- Rules load the same from either form, each at its place, however the resources are spread over
documents; the fields of either form tell its readers the same; and of a stream with a broken
document comes nothing but the position of the first. -/
theorem Dialect.reads_agree :
    (∀ (s t : String) (exported : List InterfaceRule),
      interfaceRules? s = some exported → .broken ∉ documentsIn t →
      List.Forall₂ ResourceRule.SaysSame ((documentsIn t).flatMap Document.rules) exported →
      (exported.countP fun rule => rule.id.isNone) < UInt32.size - 1000 →
        ∃ rules, Dialect.interface.read s = .ok rules ∧ Dialect.resources.read t = .ok rules ∧
          LoadedFrom exported rules) ∧
    (∀ (idName : String) (given : List (RuleField × Tree)) (rule : ResourceRule)
      (other : InterfaceRule), idName ∈ ["id", "conversion_id_ref"] →
      resourceRule? (RuleField.record (RuleField.resourceName idName) given) = some rule →
      interfaceRule? (RuleField.record RuleField.interfaceName given) = some other →
        rule.SaysSame other) ∧
    ∀ (t : String) (front back : List Document), documentsIn t = front ++ .broken :: back →
      .broken ∉ front →
        Dialect.resources.read t = .error (.input (.notYaml front.length)) ∧
          (Failure.input (.notYaml front.length)).message = "input error: " ++
            ("failed to decode YAML document " ++ toString front.length ++ ": *") := by
  refine ⟨?_, ?_, ?_⟩
  · intro s t exported hexported hdocuments hsame hcount
    refine ⟨_, Dialect.read_interface_eq_ok hexported, ?_, loadedFrom_numbered hcount⟩
    rw [Dialect.read_resources_eq_ok hdocuments, map_toExported_eq hsame]
  · intro idName given rule other hname hrule hother
    exact ResourceRule.saysSame_of_record hname hrule hother
  · intro t front back hdocuments hfront
    exact ⟨Dialect.read_resources_eq_error hdocuments hfront, rfl⟩

/-- Rules of which two have no id. -/
def mixture : String :=
  "\x7b\"rules\":[\x7b\"rule_type\":\"\",\"criteria\":[" ++
    "\x7b\"name\":\"pspCompliance\",\"op\":\"=\",\"sub_criteria\":null\x7d]\x7d," ++
  "\x7b\"id\":7,\"comment\":\"kept\"\x7d,\x7b\"rule_type\":\"deny\",\"disable\":true\x7d]\x7d"

def mixtureRules : List InterfaceRule :=
  [{ kind := some "", criteria := some [{ name := "pspCompliance", operator := "=" }] },
    { id := some 7, comment := "kept" }, { kind := some "deny", disabled := true }]

/-- The same rules in two documents, with an empty one between them. -/
def mixtureStream : String :=
  "spec:\n  rules:\n  - criteria:\n    - name: pspCompliance\n      op: '='\n---\n---\n" ++
  "spec:\n  rules:\n  - conversion_id_ref: 7\n    comment: kept\n" ++
  "  - action: deny\n    disabled: true\n    rule_mode: ''\n"

def brokenStream : String := "~\n---\nspec: ~\n---\nspec: 3\n---\nspec: ~\n"

theorem Dialect.mixture_reads_agree :
    (∃ rules, Dialect.interface.read mixture = .ok rules ∧
      Dialect.resources.read mixtureStream = .ok rules ∧ LoadedFrom mixtureRules rules) ∧
    Dialect.resources.read brokenStream = .error (.input (.notYaml 2)) := by
  have hexported : interfaceRules? mixture = some mixtureRules := by decide +kernel
  have hdocuments : documentsIn mixtureStream =
      [.resource (some [{ criteria := some [{ name := "pspCompliance", operator := "=" }] }]),
        .void, .resource (some [{ id := some 7, comment := some "kept" },
          { kind := some "deny", disabled := some true, mode := some "" }])] := by
    decide +kernel
  have hbroken : documentsIn brokenStream =
      [.void, .resource none] ++ .broken :: [.resource none] := by
    decide +kernel
  obtain ⟨hagree, hfields, hfails⟩ := Dialect.reads_agree
  have hkept : ResourceRule.SaysSame { id := some 7, comment := some "kept" }
      { id := some 7, comment := "kept" } :=
    hfields "conversion_id_ref" [(.comment, .text "kept"), (.id, .int 7)] _ _ (by decide) rfl rfl
  have hsame : List.Forall₂ ResourceRule.SaysSame
      ((documentsIn mixtureStream).flatMap Document.rules) mixtureRules := by
    rw [hdocuments]
    refine .cons ?_ (.cons hkept (.cons ?_ .nil))
    · exact ⟨rfl, rfl, fun _ => Iff.rfl, rfl, rfl, rfl⟩
    · exact ⟨rfl, rfl, fun _ => Iff.rfl, rfl, rfl, rfl⟩
  have hwhole : .broken ∉ documentsIn mixtureStream := by
    rw [hdocuments]
    decide
  have hcount : (mixtureRules.countP fun rule => rule.id.isNone) < UInt32.size - 1000 := by decide
  exact ⟨hagree mixture mixtureStream mixtureRules hexported hwhole hsame hcount,
    (hfails brokenStream _ _ hbroken (by decide)).1⟩

end Export
end Admission
