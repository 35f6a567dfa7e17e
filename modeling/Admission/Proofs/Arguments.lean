import Admission.Proofs.Mode

/-!
What the words of a command line give. Main statement: a request for a conversion holds just what
its words give, in whatever order and spelling they give it: every slot the value that was given for
it, which is one at most, and every flag whether it was given.
-/

namespace Admission

namespace CommandLine

/-- A thing that a command line gives. -/
inductive Item
  | value (slot : Slot) (s : String)
  | flag (flag : Flag)
  deriving DecidableEq, Repr

/-- What an argument gives with the value that is attached to it. A slot without one awaits it. -/
inductive Gives : Argument → Option String → List Item → Option Slot → Prop
  | flag (flag : Flag) : Gives (.flag flag) none [.flag flag] none
  | attached (slot : Slot) (s : String) : Gives (.slot slot) (some s) [.value slot s] none
  | awaiting (slot : Slot) : Gives (.slot slot) none [] (some slot)

/-- What the letters behind one dash give: flags, of which the last letter may be a slot. -/
inductive Letters : List Char → List Item → Option Slot → Prop
  | nil : Letters [] [] none
  | flag {c : Char} {cs : List Char} {flag : Flag} {items : List Item} {awaited : Option Slot} :
    byLetter? .convert c = some (.flag flag) → Letters cs items awaited →
      Letters (c :: cs) (.flag flag :: items) awaited
  | slot {c : Char} {cs : List Char} {slot : Slot} {items : List Item} {awaited : Option Slot} :
    byLetter? .convert c = some (.slot slot) →
      Gives (.slot slot) (Progress.takeLetters.attached cs) items awaited →
      Letters (c :: cs) items awaited

/-- What a word gives that begins with a dash. -/
inductive Opens : Word → List Item → Option Slot → Prop
  | named {name : String} {value : Option String} {argument : Argument} {items : List Item}
    {awaited : Option Slot} : byName? .convert name = some argument →
      Gives argument value items awaited → Opens (.named name value) items awaited
  | letters {cs : List Char} {items : List Item} {awaited : Option Slot} :
    Letters cs items awaited → Opens (.letters cs) items awaited

/-- What the words of a conversion give, where the value of a slot may be awaited from before. -/
inductive Spells : Option Slot → List String → List Item → Prop
  | nil : Spells none [] []
  | value {slot : Slot} {s : String} {rest : List String} {items : List Item} :
    Word.ofString s = .plain → Spells none rest items →
      Spells (some slot) (s :: rest) (.value slot s :: items)
  | argument {s : String} {rest : List String} {front back : List Item} {awaited : Option Slot} :
    Opens (Word.ofString s) front awaited → Spells awaited rest back →
      Spells none (s :: rest) (front ++ back)
  | input {s : String} {rest : List String} {items : List Item} :
    Word.ofString s = .plain → Spells none rest items →
      Spells none (s :: rest) (.value .input s :: items)
  | escape {s : String} (rest : List String) :
    Word.ofString s = .escape → Spells none (s :: rest) (rest.map (Item.value .input))

section

variable {items other : List Item} {awaited awaited' : Option Slot}

theorem Gives.unique {argument : Argument} {value : Option String}
    (h : Gives argument value items awaited) (h' : Gives argument value other awaited') :
    items = other ∧ awaited = awaited' := by
  cases h <;> cases h' <;> exact ⟨rfl, rfl⟩

theorem Letters.unique {cs : List Char} (h : Letters cs items awaited)
    (h' : Letters cs other awaited') : items = other ∧ awaited = awaited' := by
  induction h generalizing other with
  | nil =>
    cases h'
    exact ⟨rfl, rfl⟩
  | flag hletter _ ih =>
    cases h' with
    | flag hletter' hrest =>
      cases hletter.symm.trans hletter'
      obtain ⟨rfl, rfl⟩ := ih hrest
      exact ⟨rfl, rfl⟩
    | slot hletter' _ => cases hletter.symm.trans hletter'
  | slot hletter hgives =>
    cases h' with
    | flag hletter' _ => cases hletter.symm.trans hletter'
    | slot hletter' hgives' =>
      cases hletter.symm.trans hletter'
      exact hgives.unique hgives'

theorem Opens.unique {word : Word} (h : Opens word items awaited)
    (h' : Opens word other awaited') : items = other ∧ awaited = awaited' := by
  cases h with
  | named hname hgives =>
    cases h' with
    | named hname' hgives' =>
      cases hname.symm.trans hname'
      exact hgives.unique hgives'
  | letters hletters =>
    cases h' with
    | letters hletters' => exact hletters.unique hletters'

/-- The words of a conversion give one list of items. -/
theorem Spells.unique {words : List String} (h : Spells awaited words items)
    (h' : Spells awaited words other) : items = other := by
  induction h generalizing other with
  | nil =>
    cases h'
    rfl
  | value _ _ ih =>
    cases h' with
    | value _ hrest => rw [ih hrest]
  | argument hopens _ ih =>
    cases h' with
    | argument hopens' hrest =>
      obtain ⟨rfl, rfl⟩ := hopens.unique hopens'
      rw [ih hrest]
    | input hword _ =>
      rw [hword] at hopens
      cases hopens
    | escape _ hword =>
      rw [hword] at hopens
      cases hopens
  | input hword _ ih =>
    cases h' with
    | argument hopens _ =>
      rw [hword] at hopens
      cases hopens
    | input _ hrest => rw [ih hrest]
    | escape _ hword' => cases hword.symm.trans hword'
  | escape rest hword =>
    cases h' with
    | argument hopens _ =>
      rw [hword] at hopens
      cases hopens
    | input hword' _ => cases hword.symm.trans hword'
    | escape _ _ => rfl

end

def Item.text? (slot : Slot) : Item → Option String
  | value other s => if other = slot then some s else none
  | flag _ => none

/-- The first value that is given for a slot. -/
def given (slot : Slot) (items : List Item) : Option String := items.findSome? (Item.text? slot)

theorem given_cons (slot : Slot) (item : Item) (items : List Item) :
    given slot (item :: items) = (item.text? slot).or (given slot items) := by
  unfold given
  rw [List.findSome?_cons]
  cases item.text? slot <;> rfl

def flagText (b : Bool) : String := if b then "true" else "false"

namespace Draft

def accept (draft : Draft) : Item → Except Stop Draft
  | .value slot s => draft.store slot s
  | .flag flag => draft.raise .convert flag

def text? (draft : Draft) : Slot → Option String
  | .input => draft.input
  | .configPath => draft.configPath
  | .policyServer => draft.policyServer
  | .mode => draft.mode.map PolicyMode.text
  | .backgroundAudit => draft.backgroundAudit.map flagText
  | .reportNamespace => draft.reportNamespace
  | .platform => draft.platform
  | .output => draft.output

def has (draft : Draft) : Flag → Bool
  | .showSummary => draft.showSummary
  | .verbose => draft.verbose
  | .help | .version => false

/-- What is stored for a slot was not given before. -/
theorem put_eq_ok {α : Type} {held : Option α} {value : Except Stop α} {put : Option α → Draft}
    {out : Draft} (h : (do return put (← once held value)) = .ok out) :
    held = none ∧ ∃ a, value = .ok a ∧ out = put (some a) := by
  obtain ⟨found, honce, hout⟩ := bind_eq_ok.1 h
  unfold once at honce
  split at honce
  · cases honce
  · next hheld =>
    obtain ⟨a, hvalue, rfl⟩ := map_eq_ok.1 honce
    exact ⟨Option.not_isSome_iff_eq_none.1 hheld, a, hvalue, (pure_eq_ok.1 hout).symm⟩

theorem readPath_eq_ok {s path : String} (h : readPath s = .ok path) : path = s := by
  unfold readPath at h
  split at h
  · cases h
  · cases h
    rfl

theorem readFlag_eq_ok {s : String} {b : Bool} (h : readFlag s = .ok b) : flagText b = s := by
  unfold readFlag at h
  split at h
  · next hs =>
    cases h
    exact hs.symm
  · split at h
    · next hs =>
      cases h
      exact hs.symm
    · cases h

variable {draft out : Draft}

/-- A value is stored where there was none, as it is written. -/
theorem text?_of_store {slot : Slot} {s : String} (h : draft.store slot s = .ok out) :
    draft.text? slot = none ∧ out.text? slot = some s := by
  cases slot with
  | input | configPath =>
    obtain ⟨hheld, path, hread, rfl⟩ := put_eq_ok h
    exact ⟨hheld, congrArg some (readPath_eq_ok hread)⟩
  | mode =>
    obtain ⟨hheld, mode, hread, rfl⟩ := put_eq_ok h
    exact ⟨congrArg (Option.map _) hheld, congrArg some (readMode_eq_ok.1 hread).symm⟩
  | backgroundAudit =>
    obtain ⟨hheld, b, hread, rfl⟩ := put_eq_ok h
    exact ⟨congrArg (Option.map _) hheld, congrArg some (readFlag_eq_ok hread)⟩
  | policyServer | reportNamespace | platform | output =>
    obtain ⟨hheld, found, hread, rfl⟩ := put_eq_ok h
    exact ⟨hheld, congrArg some (Except.ok.inj hread).symm⟩

/-- Storing a value for a slot leaves everything else as it is. -/
theorem frame_of_store {slot : Slot} {s : String} (h : draft.store slot s = .ok out) :
    (∀ other, other ≠ slot → out.text? other = draft.text? other) ∧
      ∀ flag, out.has flag = draft.has flag := by
  cases slot <;> obtain ⟨-, a, -, rfl⟩ := put_eq_ok h <;>
    refine ⟨fun other hother => ?_, fun flag => by cases flag <;> rfl⟩ <;>
    cases other <;> first | rfl | exact absurd rfl hother

/-- A flag is raised where it was not, and that leaves everything else as it is. -/
theorem frame_of_raise {flag : Flag} (h : draft.raise .convert flag = .ok out) :
    (∀ slot, out.text? slot = draft.text? slot) ∧
      ∀ other, out.has other = true ↔ draft.has other = true ∨ flag = other := by
  cases flag with
  | help | version => cases h
  | showSummary | verbose =>
    dsimp only [raise] at h
    split at h
    · cases h
    · cases h
      exact ⟨fun slot => by cases slot <;> rfl, fun other => by cases other <;> simp [has]⟩

theorem accept_eq_ok {item : Item} (h : draft.accept item = .ok out) :
    (∀ slot, out.text? slot = (draft.text? slot).or (item.text? slot)) ∧
      ∀ flag, out.has flag = true ↔ draft.has flag = true ∨ item = .flag flag := by
  cases item with
  | flag flag =>
    obtain ⟨htext, hflag⟩ := frame_of_raise h
    refine ⟨fun slot => (htext slot).trans (Option.or_none).symm, fun other => ?_⟩
    rw [hflag, Item.flag.injEq]
  | value slot s =>
    obtain ⟨hheld, hnow⟩ := text?_of_store h
    obtain ⟨htext, hflag⟩ := frame_of_store h
    refine ⟨fun other => ?_, fun flag => by simp [hflag]⟩
    by_cases hother : other = slot
    · subst hother
      simp [Item.text?, hheld, hnow]
    · simp [Item.text?, htext other hother, Ne.symm hother]

/-- The draft holds what the items give, besides what it held before. -/
theorem text?_of_items {items : List Item} (h : items.foldlM accept draft = .ok out) :
    (∀ slot, out.text? slot = (draft.text? slot).or (given slot items)) ∧
      ∀ flag, out.has flag = true ↔ draft.has flag = true ∨ .flag flag ∈ items := by
  induction items generalizing draft with
  | nil =>
    cases h
    exact ⟨fun _ => (Option.or_none).symm, fun _ => by simp⟩
  | cons item items ih =>
    rw [List.foldlM_cons] at h
    obtain ⟨next, hnext, hrest⟩ := bind_eq_ok.1 h
    obtain ⟨htext, hflag⟩ := accept_eq_ok hnext
    obtain ⟨htexts, hflags⟩ := ih hrest
    refine ⟨fun slot => ?_, fun flag => ?_⟩
    · rw [htexts, htext, given_cons, Option.or_assoc]
    · rw [hflags, hflag, List.mem_cons, or_assoc, @eq_comm _ item]

end Draft

namespace Progress

def awaited (progress : Progress) : Option Slot :=
  match progress.pending with
  | some (slot, none) => some slot
  | _ => none

def held (progress : Progress) : List Item :=
  match progress.pending with
  | some (slot, some s) => [.value slot s]
  | _ => []

def outcome (progress : Progress) (items : List Item) : Except Stop Draft :=
  (progress.held ++ items).foldlM Draft.accept progress.draft

/-- The items lead from one progress to another, and nothing is awaited before them. -/
structure Moves (progress : Progress) (items : List Item) (next : Progress) : Prop where
  awaited_eq_none : progress.awaited = none
  outcome_eq : ∀ more, next.outcome more = progress.outcome (items ++ more)

variable {progress next last : Progress} {items : List Item}

theorem Moves.trans {front back : List Item} (h : Moves progress front next)
    (h' : Moves next back last) : Moves progress (front ++ back) last where
  awaited_eq_none := h.awaited_eq_none
  outcome_eq more := by rw [h'.outcome_eq, h.outcome_eq, List.append_assoc]

/-- What is pending counts as one more item. -/
theorem settle_eq_ok {draft : Draft} (h : progress.settle = .ok draft) :
    progress.awaited = none ∧
      ∀ items, progress.outcome items = items.foldlM Draft.accept draft := by
  obtain ⟨found, pending⟩ := progress
  match pending with
  | none =>
    cases h
    exact ⟨rfl, fun _ => rfl⟩
  | some (slot, none) => cases h
  | some (slot, some s) =>
    have hstore : found.store slot s = .ok draft := h
    refine ⟨rfl, fun items => ?_⟩
    change (found.store slot s >>= fun next => items.foldlM Draft.accept next) = _
    rw [hstore, ok_bind]

theorem moves_of_accept {draft out : Draft} {item : Item} (hsettle : progress.settle = .ok draft)
    (haccept : draft.accept item = .ok out) : Moves progress [item] { draft := out } := by
  obtain ⟨hnone, houtcome⟩ := settle_eq_ok hsettle
  refine ⟨hnone, fun more => ?_⟩
  rw [houtcome, List.singleton_append, List.foldlM_cons, haccept]
  rfl

/-- Taking an argument comes to what the argument gives. -/
theorem take_eq_ok {argument : Argument} {value : Option String}
    (h : progress.take .convert argument value = .ok next) :
    ∃ items, Gives argument value items next.awaited ∧ Moves progress items next := by
  unfold take at h
  match argument, value with
  | .flag _, some _ => cases h
  | .flag flag, none =>
    obtain ⟨draft, hsettle, h⟩ := bind_eq_ok.1 h
    obtain ⟨raised, hraise, h⟩ := bind_eq_ok.1 h
    cases h
    exact ⟨_, .flag flag, moves_of_accept hsettle hraise⟩
  | .slot slot, some s =>
    obtain ⟨draft, hsettle, h⟩ := bind_eq_ok.1 h
    obtain ⟨stored, hstore, h⟩ := bind_eq_ok.1 h
    cases h
    exact ⟨_, .attached slot s, moves_of_accept hsettle hstore⟩
  | .slot slot, none =>
    obtain ⟨draft, hsettle, h⟩ := bind_eq_ok.1 h
    cases h
    obtain ⟨hnone, houtcome⟩ := settle_eq_ok hsettle
    exact ⟨_, .awaiting slot, hnone, fun more => (houtcome more).symm⟩

theorem takeLetters_eq_ok {cs : List Char} (hstart : cs = [] → progress.awaited = none)
    (h : takeLetters .convert progress cs = .ok next) :
    ∃ items, Letters cs items next.awaited ∧ Moves progress items next := by
  induction cs generalizing progress with
  | nil =>
    cases h
    rw [hstart rfl]
    exact ⟨[], .nil, hstart rfl, fun _ => rfl⟩
  | cons c cs ih =>
    unfold takeLetters at h
    split at h
    · cases h
    · next flag hletter =>
      obtain ⟨taken, htake, hrest⟩ := bind_eq_ok.1 h
      obtain ⟨items, hgives, hmoves⟩ := take_eq_ok htake
      generalize hawaited : taken.awaited = awaited at hgives
      cases hgives
      obtain ⟨rest, hletters, hmoves'⟩ := ih (fun _ => hawaited) hrest
      exact ⟨_, .flag hletter hletters, hmoves.trans hmoves'⟩
    · next slot hletter =>
      obtain ⟨items, hgives, hmoves⟩ := take_eq_ok h
      exact ⟨items, .slot hletter hgives, hmoves⟩

theorem takeInput_eq_ok {s : String} (h : progress.takeInput .convert s = .ok next) :
    next.awaited = none ∧ Moves progress [.value .input s] next := by
  unfold takeInput at h
  split at h
  · obtain ⟨draft, hsettle, h⟩ := bind_eq_ok.1 h
    cases h
    obtain ⟨hnone, houtcome⟩ := settle_eq_ok hsettle
    exact ⟨rfl, hnone, fun more => (houtcome _).symm⟩
  · cases h

/-- Behind two dashes every word is an input. -/
theorem takeInputs_eq_ok {words : List String}
    (h : words.foldlM (fun progress s => progress.takeInput .convert s) progress = .ok next)
    (hnext : next.awaited = none) : Moves progress (words.map (Item.value .input)) next := by
  induction words generalizing progress with
  | nil =>
    cases h
    exact ⟨hnext, fun _ => rfl⟩
  | cons s words ih =>
    rw [List.foldlM_cons] at h
    obtain ⟨taken, htake, hrest⟩ := bind_eq_ok.1 h
    exact (takeInput_eq_ok htake).2.trans (ih hrest)

theorem ne_nil_of_letters {s : String} {cs : List Char} (h : Word.ofString s = .letters cs) :
    cs ≠ [] := by
  rintro rfl
  unfold Word.ofString at h
  split at h <;> cases h

/-- Taking words comes to taking the items that they give, from wherever it begins. -/
theorem takeWords_eq_ok {words : List String} (h : takeWords .convert progress words = .ok next)
    (hnext : next.awaited = none) : ∃ items, Spells progress.awaited words items ∧
      ∀ more, next.outcome more = progress.outcome (items ++ more) := by
  induction words generalizing progress with
  | nil =>
    cases h
    rw [hnext]
    exact ⟨[], .nil, fun _ => rfl⟩
  | cons s words ih =>
    -- Whatever begins with a dash moves on by what it gives.
    have hstep (taken : Progress) (front : List Item)
        (hopens : Opens (Word.ofString s) front taken.awaited) (hmoves : Moves progress front taken)
        (hrest : takeWords .convert taken words = .ok next) :
        ∃ items, Spells progress.awaited (s :: words) items ∧
          ∀ more, next.outcome more = progress.outcome (items ++ more) := by
      obtain ⟨back, hspells, houtcome⟩ := ih hrest
      rw [hmoves.awaited_eq_none]
      refine ⟨front ++ back, .argument hopens hspells, fun more => ?_⟩
      rw [houtcome, hmoves.outcome_eq, List.append_assoc]
    unfold takeWords at h
    split at h
    case h_1 hword =>
      have hmoves := takeInputs_eq_ok h hnext
      rw [hmoves.awaited_eq_none]
      exact ⟨_, .escape words hword, hmoves.outcome_eq⟩
    case h_2 name value hword =>
      split at h
      · cases h
      · next argument hname =>
        obtain ⟨taken, htake, hrest⟩ := bind_eq_ok.1 h
        obtain ⟨front, hgives, hmoves⟩ := take_eq_ok htake
        exact hstep taken front (hword ▸ .named hname hgives) hmoves hrest
    case h_3 cs hword =>
      obtain ⟨taken, htake, hrest⟩ := bind_eq_ok.1 h
      obtain ⟨front, hletters, hmoves⟩ :=
        takeLetters_eq_ok (fun hnil => absurd hnil (ne_nil_of_letters hword)) htake
      exact hstep taken front (hword ▸ .letters hletters) hmoves hrest
    case h_4 hword =>
      split at h
      · next slot hpending =>
        obtain ⟨items, hspells, houtcome⟩ := ih h
        have hawaited : progress.awaited = some slot := by
          unfold awaited
          rw [hpending]
        rw [hawaited]
        refine ⟨_, .value hword hspells, fun more => (houtcome more).trans ?_⟩
        unfold outcome held
        rw [hpending]
        rfl
      · obtain ⟨taken, htake, hrest⟩ := bind_eq_ok.1 h
        obtain ⟨hnone, hmoves⟩ := takeInput_eq_ok htake
        obtain ⟨items, hspells, houtcome⟩ := ih hrest
        rw [hnone] at hspells
        rw [hmoves.awaited_eq_none]
        exact ⟨_, .input hword hspells, fun more => (houtcome more).trans (hmoves.outcome_eq _)⟩

end Progress

/-- The words of a conversion give the items that its draft holds. -/
theorem spells_of_takeWords {words : List String} {progress : Progress} {draft : Draft}
    (h : Progress.takeWords .convert {} words = .ok progress)
    (hdraft : progress.settle = .ok draft) :
    ∃ items, Spells none words items ∧ items.foldlM Draft.accept {} = .ok draft := by
  obtain ⟨hnone, hsettled⟩ := Progress.settle_eq_ok hdraft
  obtain ⟨items, hspells, houtcome⟩ := Progress.takeWords_eq_ok h hnone
  have hitems := houtcome []
  rw [hsettled, List.append_nil] at hitems
  exact ⟨items, hspells, hitems.symm⟩

/-- The arguments are those that the items give. A policy server from the environment counts where
the items give none. -/
structure GivenBy (server : Option String) (items : List Item) (arguments : ConvertArguments) :
    Prop where
  input : given .input items = some arguments.input
  configPath : arguments.configPath = (given .configPath items).getD "kwconvert.yaml"
  policyServer : arguments.policyServer = (given .policyServer items).or server
  mode : arguments.mode.map PolicyMode.text = given .mode items
  backgroundAudit : arguments.backgroundAudit.map flagText = given .backgroundAudit items
  reportNamespace : arguments.reportNamespace = given .reportNamespace items
  platform : arguments.platform = given .platform items
  output : arguments.output = given .output items
  showSummary : arguments.showSummary = true ↔ .flag .showSummary ∈ items
  verbose : arguments.verbose = true ↔ .flag .verbose ∈ items

theorem givenBy_of_toArguments {items : List Item} {draft : Draft} {server : Option String}
    {arguments : ConvertArguments} (hitems : items.foldlM Draft.accept {} = .ok draft)
    (h : draft.toArguments server = .ok arguments) : GivenBy server items arguments := by
  obtain ⟨htext, hflag⟩ := Draft.text?_of_items hitems
  -- An empty draft holds nothing of its own.
  have htext (slot : Slot) : draft.text? slot = given slot items := by
    rw [htext slot]
    cases slot <;> rfl
  have hflag (flag : Flag) : draft.has flag = true ↔ .flag flag ∈ items := by
    rw [hflag flag]
    cases flag <;> simp [Draft.has]
  unfold Draft.toArguments at h
  split at h
  · cases h
  · next input hinput =>
    cases h
    exact {
      input := (htext .input).symm.trans hinput
      configPath := congrArg (Option.getD · "kwconvert.yaml") (htext .configPath)
      policyServer := congrArg (Option.or · server) (htext .policyServer)
      mode := htext .mode
      backgroundAudit := htext .backgroundAudit
      reportNamespace := htext .reportNamespace
      platform := htext .platform
      output := htext .output
      showSummary := hflag .showSummary
      verbose := hflag .verbose }

theorem eq_of_ofName? {s : String} {command : Command} (h : Command.ofName? s = some command) :
    s = command.name := by
  unfold Command.ofName? at h
  have hname := List.find?_some h
  exact (beq_iff_eq.1 hname).symm

/-- A request for a conversion holds what the words behind the command give. There is one list of
items that they give. -/
theorem givenBy_of_read {server : Option String} {words : List String}
    {arguments : ConvertArguments} (h : read server words = .ok (.convert arguments)) :
    ∃ rest items, words = "convert" :: rest ∧
      (∀ other, Spells none rest other ↔ other = items) ∧ GivenBy server items arguments := by
  unfold read at h
  split at h
  · cases h
  · next s rest =>
    split at h
    case h_2 => cases h
    case h_1 command hname =>
      obtain ⟨progress, htake, h⟩ := bind_eq_ok.1 h
      obtain ⟨draft, hsettle, h⟩ := bind_eq_ok.1 h
      cases command with
      | support | version => cases h
      | convert =>
        obtain ⟨_, hdraft, heq⟩ := map_eq_ok.1 h
        cases heq
        obtain ⟨items, hspells, hitems⟩ := spells_of_takeWords htake hsettle
        refine ⟨rest, items, congrArg (· :: rest) (eq_of_ofName? hname), fun other => ?_,
          givenBy_of_toArguments hitems hdraft⟩
        exact ⟨fun hother => hother.unique hspells, fun heq => heq ▸ hspells⟩

end CommandLine

end Admission
