import Spectrometer.Proofs.Emulator.Live
import Spectrometer.Proofs.Twin.Session

/-!
What an emulator shows to one of its users. Somebody who asks for a device by a serial number that
no other attached device has gets to see that device alone, through contexts of their own: two
emulators that agree about it, whatever else is different, give the same replies. What others do,
each with a device of theirs, leaves the device and the context as they are.
-/

namespace Spectrometer

open Interaction (Pairing Twin)

/-- Requests leave the serial number, and plug nothing in. -/
theorem Device.perform_serial {d d' : Device} {limit : Option Nat} {r : Request} {value : r.Value}
    (hperform : d.perform limit r = .ok (value, d')) :
    d'.serial = d.serial ∧ (d'.detached = false → d.detached = false) := by
  cases r with
  | trigger =>
    cases hperform
    unfold Device.trigger
    dsimp only
    split <;> exact ⟨rfl, id⟩
  | setFormat f =>
    rw [setFormat_eq hperform]
    exact ⟨rfl, id⟩
  | getFrame index length =>
    rw [getFrame_eq hperform]
    split <;> exact ⟨rfl, id⟩
  | readFlash offset length =>
    rw [(perform_readFlash hperform).2]
    exact ⟨rfl, id⟩
  | writeFlash offset data =>
    rw [(writeFlash_eq hperform).2]
    exact ⟨rfl, id⟩
  | detach =>
    cases hperform
    exact ⟨rfl, nofun⟩
  | _ =>
    cases hperform
    exact ⟨rfl, id⟩

namespace Emulator

variable {e e' : Emulator} {serial : String} {own other : Option Nat} {c : Call} {ctx : Context}
  {contexts : Context × Context}

/-- No other attached device has the serial number. -/
def Only (devices : List Device) (serial : String) (own : Option Nat) : Prop :=
  ∀ (i : Nat) (d : Device), devices[i]? = some d → d.detached = false → d.serial = serial →
    own = some i

theorem Only.set {devices : List Device} (h : Only devices serial own) {i : Nat} {d d' : Device}
    (hd : devices[i]? = some d) {limit : Option Nat} {r : Request} {value : r.Value}
    (hperform : d.perform limit r = .ok (value, d')) : Only (devices.set i d') serial own := by
  intro j found hfound hattached hserial
  by_cases hij : i = j
  · subst hij
    rw [List.getElem?_set_self (List.getElem?_eq_some_iff.mp hd).1] at hfound
    cases hfound
    obtain ⟨hsame, hkept⟩ := Device.perform_serial hperform
    exact h i d hd (hkept hattached) (hsame.symm.trans hserial)
  · rw [List.getElem?_set_ne hij] at hfound
    exact h j found hfound hattached hserial

theorem Only.call (h : Only e.devices serial own) (c : Call) :
    Only (link c e).2.devices serial own := by
  have heffect := link_effect c e
  cases heffect with
  | none hcontexts hnext hdevices => exact hdevices ▸ h
  | attach j old hold hj hcontexts hnext hdevices => exact hdevices ▸ h
  | release old hold hcontexts hnext hdevices => exact hdevices ▸ h
  | operate ctx r j d d' value hc hdevice hd hperform hcontexts hnext hdevices =>
    exact hdevices ▸ h.set hd hperform

/-- Attached devices with serial numbers of their own are found by them alone. -/
theorem only_of_nodup {e : Emulator} (hdistinct : e.serials.Nodup) (serial : String) :
    Only e.devices serial (e.findBySerial? (some serial)) := by
  intro i d hd hattached hserial
  have hpairwise : e.devices.Pairwise fun d d' =>
      d.detached = false → d'.detached = false → d.serial ≠ d'.serial := by
    have h := List.pairwise_filter.mp (List.pairwise_map.mp hdistinct)
    exact h.imp fun hne h h' => hne (by simp [h]) (by simp [h'])
  obtain ⟨hi, rfl⟩ := List.getElem?_eq_some_iff.mp hd
  cases hj : e.findBySerial? (some serial) with
  | none =>
    have hnot := List.findIdx?_eq_none_iff.mp hj _ (List.getElem_mem hi)
    simp [hattached, hserial] at hnot
  | some j =>
    obtain ⟨hlt, hfound, -⟩ := List.findIdx?_eq_some_iff_getElem.mp hj
    obtain ⟨hattached', hserial'⟩ :
        e.devices[j].detached = false ∧ e.devices[j].serial = serial := by
      simpa using hfound
    obtain hlt' | rfl | hgt := Nat.lt_trichotomy i j
    · exact absurd (hserial.trans hserial'.symm)
        (List.pairwise_iff_getElem.mp hpairwise i j hi hlt hlt' hattached hattached')
    · rfl
    · exact absurd (hserial'.trans hserial.symm)
        (List.pairwise_iff_getElem.mp hpairwise j i hlt hi hgt hattached' hattached)

theorem attached_nodup (e : Emulator) : e.attached.Nodup := List.nodup_range.filter _

/-- The enumeration tells the serial numbers of the attached devices in their order. -/
theorem serials_eq (e : Emulator) :
    e.attached.map (fun i => e.devices[i]?.map (·.serial)) = e.serials.map some := by
  unfold attached serials
  generalize e.devices = devices
  induction devices with
  | nil => rfl
  | cons d rest ih =>
    rw [List.length_cons, List.range_succ_eq_map, List.filter_cons, List.filter_cons,
      List.filter_map]
    simp only [Function.comp_def, List.getElem?_cons_succ, List.getElem?_cons_zero, Option.any_some]
    cases d.detached with
    | true => simpa [Function.comp_def] using ih
    | false => simpa [Function.comp_def] using ih

theorem exists_attached (e : Emulator) {place : Nat} (hplace : place < e.serials.length) :
    ∃ i d, e.attached[place]? = some i ∧ e.devices[i]? = some d ∧ d.detached = false ∧
      e.serials[place]? = some d.serial := by
  have hmap := congrArg (·[place]?) e.serials_eq
  simp only [List.getElem?_map, List.getElem?_eq_getElem hplace, Option.map_some] at hmap
  obtain ⟨i, hi, hserial⟩ := Option.map_eq_some_iff.mp hmap
  obtain ⟨d, hd, hsame⟩ := Option.map_eq_some_iff.mp hserial
  refine ⟨i, d, hi, hd, ?_, ?_⟩
  · have hmem := List.mem_filter.mp (List.mem_of_getElem? hi)
    simpa [hd] using hmem.2
  · rw [List.getElem?_eq_getElem hplace, hsame]

section Calls

variable (h : e.Untroubled)

include h

theorem Untroubled.link_connectBySerial (serial : Option String) (ctx : Context) :
    link (.connectBySerial serial ctx) e =
      (e.enter .connectBySerial).2.connectTo (e.findBySerial? serial) .connectFailed ctx :=
  link_connectBySerial_of_no_fault (h .connectBySerial) serial ctx

theorem Untroubled.link_disconnect (ctx : Context) : link (.disconnect ctx) e =
    ((.null, .ok ()), (e.enter .disconnect).2.forget ctx) := by
  have henter : e.enter .disconnect = (none, (e.enter .disconnect).2) := Prod.ext (h _) rfl
  simp only [link]
  rw [henter]

theorem Untroubled.link_operate (ctx : Context) (r : Request) :
    link (.operate ctx r) e = (e.enter r.operation).2.operate ctx r := by
  have henter : e.enter r.operation = (none, (e.enter r.operation).2) := Prod.ext (h _) rfl
  simp only [link]
  rw [henter]

end Calls

/-- The context is none, or stands for the own device. -/
def Bound (e : Emulator) (own : Option Nat) (ctx : Context) : Prop :=
  ctx = .null ∨ ∃ i, own = some i ∧ e.deviceOf? ctx = some i

/-- Two emulators show the same to the user of one device, each under a context of its own. -/
structure Agrees (serial : String) (own : Option Nat) (contexts : Context × Context)
    (e e' : Emulator) : Prop where
  only : Only e.devices serial own
  only' : Only e'.devices serial own
  limit : e.readLimit = e'.readLimit
  device : ∀ i, own = some i → e.devices[i]? = e'.devices[i]?
  contexts : contexts = (.null, .null) ∨
    ∃ i, own = some i ∧ e.deviceOf? contexts.1 = some i ∧ e'.deviceOf? contexts.2 = some i

theorem Agrees.bound (h : Agrees serial own contexts e e') : e.Bound own contexts.1 := by
  obtain hnull | ⟨i, hown, hi, -⟩ := h.contexts
  · exact Or.inl (congrArg Prod.fst hnull)
  · exact Or.inr ⟨i, hown, hi⟩

theorem Only.findBySerial?_eq_some_iff (h : Only e.devices serial own) {i : Nat} :
    e.findBySerial? (some serial) = some i ↔ own = some i ∧
      ∃ d, e.devices[i]? = some d ∧ d.detached = false ∧ d.serial = serial := by
  have hfound {j : Nat} (hj : e.findBySerial? (some serial) = some j) : own = some j ∧
      ∃ d, e.devices[j]? = some d ∧ d.detached = false ∧ d.serial = serial := by
    obtain ⟨hlt, hd, -⟩ := List.findIdx?_eq_some_iff_getElem.mp hj
    obtain ⟨hattached, hserial⟩ : e.devices[j].detached = false ∧ e.devices[j].serial = serial := by
      simpa using hd
    have hget : e.devices[j]? = some e.devices[j] := List.getElem?_eq_getElem hlt
    exact ⟨h j _ hget hattached hserial, _, hget, hattached, hserial⟩
  refine ⟨hfound, ?_⟩
  rintro ⟨hown, d, hd, hattached, hserial⟩
  cases hj : e.findBySerial? (some serial) with
  | none =>
    have hnot := List.findIdx?_eq_none_iff.mp hj d (List.mem_of_getElem? hd)
    simp [hattached, hserial] at hnot
  | some j => exact (hfound hj).1.symm.trans hown

/-- Both find the device, or neither does. -/
theorem Agrees.findBySerial?_eq (h : Agrees serial own contexts e e') :
    e.findBySerial? (some serial) = e'.findBySerial? (some serial) := by
  ext i
  rw [h.only.findBySerial?_eq_some_iff, h.only'.findBySerial?_eq_some_iff]
  constructor
  · rintro ⟨hown, d, hd, hfound⟩
    exact ⟨hown, d, h.device i hown ▸ hd, hfound⟩
  · rintro ⟨hown, d, hd, hfound⟩
    exact ⟨hown, d, (h.device i hown).symm ▸ hd, hfound⟩

/-- A context that was just given out stands for its device. -/
theorem Sound.deviceOf?_attach (h : e.Sound) (o : Operation) (i : Nat) (old : Context) :
    ((e.enter o).2.attach i old).2.deviceOf? ⟨e.nextContext⟩ = some i := by
  refine deviceOf?_eq_some_iff.mpr ⟨?_, List.lookup_cons_self⟩
  intro hnull
  exact Nat.ne_of_gt h.next (congrArg Context.raw hnull)

/-- No context that was given out is null. -/
theorem Sound.lookup_null (h : e.Sound) : e.contexts.lookup Context.null.raw = none := by
  cases hlookup : e.contexts.lookup Context.null.raw with
  | none => rfl
  | some i =>
    obtain ⟨before, after, hsplit, -⟩ := List.lookup_eq_some_iff.mp hlookup
    have hmem : (Context.null.raw, i) ∈ e.contexts := by simp [hsplit]
    exact absurd (h.contexts _ _ hmem).1 (Nat.lt_irrefl 0)

theorem Agrees.lookup_eq (h : Agrees serial own contexts e e') (he : e.Sound) (he' : e'.Sound) :
    (e.contexts.lookup contexts.1.raw).bind (e.devices[·]?) =
      (e'.contexts.lookup contexts.2.raw).bind (e'.devices[·]?) := by
  obtain rfl | ⟨i, hown, hi, hi'⟩ := h.contexts
  · rw [he.lookup_null, he'.lookup_null]
    rfl
  · rw [(deviceOf?_eq_some_iff.mp hi).2, (deviceOf?_eq_some_iff.mp hi').2]
    exact h.device i hown

/-- A request does the same in both. -/
theorem Agrees.operate (h : Agrees serial own contexts e e') (r : Request) :
    (e.operate contexts.1 r).1 = (e'.operate contexts.2 r).1 ∧
      Agrees serial own contexts (e.operate contexts.1 r).2 (e'.operate contexts.2 r).2 := by
  unfold Emulator.operate
  obtain rfl | ⟨i, hown, hi, hi'⟩ := h.contexts
  · exact ⟨rfl, h⟩
  · have hdevice := h.device i hown
    rw [hi, hi']
    cases hd : e.devices[i]? with
    | none =>
      have hd' : e'.devices[i]? = none := hdevice ▸ hd
      simp only [hd, hd']
      exact ⟨trivial, h⟩
    | some d =>
      have hd' : e'.devices[i]? = some d := hdevice ▸ hd
      simp only [hd, hd', ← h.limit]
      by_cases hdetached : d.detached = true
      · rw [if_pos hdetached, if_pos hdetached]
        exact ⟨rfl, h⟩
      · rw [if_neg hdetached, if_neg hdetached]
        cases hperform : d.perform e.readLimit r with
        | error code => exact ⟨rfl, h⟩
        | ok result =>
          obtain ⟨value, d'⟩ := result
          dsimp only
          refine ⟨rfl, h.only.set hd hperform, h.only'.set hd' hperform, rfl, ?_, h.contexts⟩
          intro j hj
          obtain rfl : i = j := Option.some.inj (hown.symm.trans hj)
          exact (List.getElem?_set_self (List.getElem?_eq_some_iff.mp hd).1).trans
            (List.getElem?_set_self (List.getElem?_eq_some_iff.mp hd').1).symm

/-- A reply tells both the same, and leaves them in agreement. -/
theorem Agrees.reply (h : Agrees serial own contexts e e') (he : e.Sound) (he' : e'.Sound)
    (hu : e.Untroubled) (hu' : e'.Untroubled) {u u' : Utterance}
    {fits : u.Answer → u'.Answer → Context × Context → Prop}
    (hpairs : Utterance.Pairs serial contexts u u' fits) :
    ∃ after, fits (link.reply u e).1 (link.reply u' e').1 after ∧
      Agrees serial own after (link.reply u e).2 (link.reply u' e').2 := by
  cases hpairs with
  | warn w => exact ⟨_, rfl, h⟩
  | connect =>
    rename_i c c'
    simp only [Link.reply]
    rw [hu.link_connectBySerial, hu'.link_connectBySerial, ← h.findBySerial?_eq]
    cases hi : e.findBySerial? (some serial) with
    | none => exact ⟨(c, c'), ⟨rfl, rfl⟩, ⟨h.only, h.only', h.limit, h.device, h.contexts⟩⟩
    | some i =>
      have hown := (h.only.findBySerial?_eq_some_iff.mp hi).1
      exact ⟨_, ⟨rfl, rfl⟩, ⟨h.only, h.only', h.limit, h.device,
        Or.inr ⟨i, hown, he.deviceOf?_attach _ i c, he'.deviceOf?_attach _ i c'⟩⟩⟩
  | disconnect =>
    simp only [Link.reply]
    rw [hu.link_disconnect, hu'.link_disconnect]
    exact ⟨_, ⟨rfl, rfl⟩, ⟨h.only, h.only', h.limit, h.device, Or.inl rfl⟩⟩
  | pixelsInFrame =>
    exact ⟨_, ⟨congrArg (Option.map _) (h.lookup_eq he he'), rfl⟩, h⟩
  | operate r =>
    simp only [Link.reply]
    rw [hu.link_operate, hu'.link_operate]
    have henter : Agrees serial own _ (e.enter r.operation).2 (e'.enter r.operation).2 :=
      ⟨h.only, h.only', h.limit, h.device, h.contexts⟩
    obtain ⟨hsame, hafter⟩ := henter.operate r
    exact ⟨_, ⟨hsame, rfl⟩, hafter⟩

/-- A context does not stand for a device that is not its owner's. -/
theorem Bound.deviceOf?_ne (hbound : e.Bound other ctx) {i : Nat} (hi : other ≠ some i) :
    e.deviceOf? ctx ≠ some i := by
  intro hdevice
  obtain rfl | ⟨j, hj, hbound⟩ := hbound
  · cases hdevice
  · exact hi (hj.trans (hbound.symm.trans hdevice))

/-- Nor does a call under it change that device. -/
theorem Bound.device_call (hbound : e.Bound other ctx) (hunder : c.context? = some ctx) {i : Nat}
    (hi : other ≠ some i) : (link c e).2.devices[i]? = e.devices[i]? := by
  have hkept : (link c e).2.devices[i]?.map id = e.devices[i]?.map id := by
    refine (link_effect c e).map_view ?_
    rintro ctx' r rfl hdevice
    cases hunder
    exact absurd hdevice (hbound.deviceOf?_ne hi)
  simpa using hkept

theorem Call.context?_of_renewed? {old : Context} (hold : c.renewed? = some old) :
    c.context? = some old := by
  cases c with
  | connectBySerial | connectByIndex | disconnect => exact hold
  | _ => cases hold

theorem Agrees.call (h : Agrees serial own contexts e e') (he : e.Sound)
    (hbound : e.Bound other ctx) (hapart : ∀ i, own = some i → other ≠ some i)
    (hunder : c.context? = some ctx) (hlimit : (link c e).2.readLimit = e.readLimit) :
    Agrees serial own contexts (link c e).2 e' := by
  refine ⟨h.only.call c, h.only', hlimit.trans h.limit, ?_, ?_⟩
  · intro i hown
    exact (hbound.device_call hunder (hapart i hown)).trans (h.device i hown)
  · obtain hnull | ⟨i, hown, hi, hi'⟩ := h.contexts
    · exact Or.inl hnull
    · refine Or.inr ⟨i, hown, (link_effect c e).deviceOf? he hi ?_, hi'⟩
      intro hrenewed
      obtain rfl := Option.some.inj (hunder.symm.trans (Call.context?_of_renewed? hrenewed))
      exact hbound.deviceOf?_ne (hapart i hown) hi

/-- What somebody says is a warning, or a call under the own context. -/
theorem Utterance.Pairs.cases_call {u u' : Utterance}
    {fits : u.Answer → u'.Answer → Context × Context → Prop}
    (hpairs : Utterance.Pairs serial contexts u u' fits) :
    (∃ w, u = .warn w) ∨ ∃ c, u = .call c ∧ c.context? = some contexts.1 ∧
      ∀ e : Emulator, (link c e).2.readLimit = e.readLimit := by
  cases hpairs with
  | warn w => exact Or.inl ⟨w, rfl⟩
  | connect =>
    refine Or.inr ⟨_, rfl, rfl, fun e => ?_⟩
    obtain ⟨code, heq⟩ | ⟨i, -, heq⟩ := link_connectBySerial_cases e (some serial) _
    · rw [heq]
      rfl
    · rw [heq]
      rfl
  | disconnect =>
    refine Or.inr ⟨_, rfl, rfl, fun e => ?_⟩
    simp only [link]
    cases henter : e.enter .disconnect with
    | mk fault e₁ =>
      obtain rfl : e₁ = (e.enter .disconnect).2 := by rw [henter]
      cases fault <;> rfl
  | pixelsInFrame => exact Or.inr ⟨_, rfl, rfl, fun e => rfl⟩
  | operate r =>
    refine Or.inr ⟨_, rfl, rfl, fun e => ?_⟩
    obtain ⟨code, heq⟩ | ⟨_, _, _, _, _, _, _, heq⟩ := link_operate_cases e _ r
    · rw [heq]
      rfl
    · rw [heq]
      rfl

/-- What somebody with another device says does not concern the user of this one. -/
theorem Agrees.foreign (h : Agrees serial own contexts e e') (he : e.Sound)
    {serial' : String} {others : Context × Context} (hbound : e.Bound other others.1)
    (hapart : ∀ i, own = some i → other ≠ some i) {u u' : Utterance}
    {fits : u.Answer → u'.Answer → Context × Context → Prop}
    (hpairs : Utterance.Pairs serial' others u u' fits) :
    Agrees serial own contexts (link.reply u e).2 e' := by
  obtain ⟨w, rfl⟩ | ⟨c, rfl, hunder, hlimit⟩ := Utterance.Pairs.cases_call hpairs
  · exact h
  · exact h.call he hbound hapart hunder (hlimit e)

/-- Nor does it change any other device. -/
theorem Bound.device_reply {others : Context × Context} (hbound : e.Bound other others.1)
    {u u' : Utterance} {fits : u.Answer → u'.Answer → Context × Context → Prop}
    (hpairs : Utterance.Pairs serial others u u' fits) {i : Nat} (hi : other ≠ some i) :
    (link.reply u e).2.devices[i]? = e.devices[i]? := by
  obtain ⟨w, rfl⟩ | ⟨c, rfl, hunder, -⟩ := Utterance.Pairs.cases_call hpairs
  · rfl
  · exact hbound.device_call hunder hi

end Emulator

end Spectrometer
