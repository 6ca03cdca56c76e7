import Spectrometer.Emulator.Basic
import Spectrometer.Proofs.Emulator.Effect
import Spectrometer.Proofs.Parameters
import Spectrometer.Proofs.Session.Changes

/-!
Setting a parameter to the value it has. A setter puts one field into the remembered record and
compares, so it makes no call if the record is unchanged. There are two exceptions: blank scans that
the device held together with `frameAveraging`, which no setter sends, and an exposure that does not
fit into a word of microseconds.
-/

namespace Spectrometer.Session

variable {W : Type} {s : Session}

/-- Applying the remembered parameters makes no call, if they have no idle blank scans. -/
theorem updateAcquisition_self {p : Acquisition} (hcurrent : s.acquisition = some p)
    (hblanks : p.mode = .frameAveraging → p.blankScans = 0) {change : Acquisition → Acquisition}
    (hsame : change p = p) : s.updateAcquisition change = pure (s, .ok ()) := by
  rw [updateAcquisition_eq hcurrent, hsame]
  apply perform_applyAcquisition_same
  rw [Acquisition.withoutIdleBlanks_of_blankScans hblanks]
  exact hcurrent

theorem updateFormat_self {f : FrameParameters} (hcurrent : s.frame = some f)
    {change : FrameFormat → FrameFormat} (hsame : change f.format = f.format) :
    s.updateFormat change = pure (s, .ok ()) := by
  rw [updateFormat_eq hcurrent, hsame]
  apply perform_applyFormat_same
  rw [hcurrent]
  rfl

theorem setMode_self {p : Acquisition} (hcurrent : s.acquisition = some p) :
    s.setMode p.mode = pure (s, .ok ()) := by
  rw [setMode_eq hcurrent, if_pos rfl]

/-- An exposure that does not fit into a word of microseconds is read as the longest one that does,
and setting the value that was read sends that one. -/
theorem Coherent.setExposure_self_of_lt (h : s.Coherent) (hconnected : s.isConnected = true)
    {p : Acquisition} (hcurrent : s.acquisition = some p) (hlong : maxExposure < p.exposure) :
    s.setExposure p.exposureMicros = do
      let (s', result) ← s.sendAcquisition
        ({ p with exposure := maxExposure } : Acquisition).withoutIdleBlanks
      return (s', result.map fun _ => ()) := by
  have hcut := Acquisition.exposureUnits_exposureMicros_of_lt hlong
  have hother : s.acquisition ≠
      some ({ p with exposure := maxExposure } : Acquisition).withoutIdleBlanks := by
    rw [hcurrent]
    intro hsame
    have hexposure := congrArg Acquisition.exposure (Option.some.inj hsame)
    rw [Acquisition.withoutIdleBlanks_exposure] at hexposure
    rw [hexposure] at hlong
    exact absurd hlong (UInt32.lt_irrefl maxExposure)
  unfold setExposure
  rw [updateAcquisition_eq hcurrent, hcut]
  simp only [Action.perform, h.applyAcquisition_other hconnected hother]

/-- After any course of actions, over every driver, calling a setter of a connected session with its
own value makes no call and leaves the session unchanged. For `setMode`, `setRange` and
`setReduction` this holds always. For `setScans`, `setBlankScans` and `setExposure` it holds unless
`frameAveraging` is remembered with blank scans, and for `setExposure` only up to `maxExposure`; a
longer exposure is cut to `maxExposure` by one `setAcquisition` request. -/
theorem own_values_are_free (link : Link W) (w : W) (serial : Option String)
    (actions : List Action)
    (hconnected : (course link actions (new serial, w)).1.isConnected = true) :
    let s := (course link actions (new serial, w)).1
    ∃ p f, s.acquisition = some p ∧ s.frame = some f ∧
      s.setMode p.mode = pure (s, .ok ()) ∧
      s.setRange f.format.first f.format.last = pure (s, .ok ()) ∧
      s.setReduction f.format.reduction = pure (s, .ok ()) ∧
      ((p.mode = .frameAveraging → p.blankScans = 0) →
        s.setScans p.scans = pure (s, .ok ()) ∧
        s.setBlankScans p.blankScans = pure (s, .ok ()) ∧
        (p.exposure ≤ maxExposure → s.setExposure p.exposureMicros = pure (s, .ok ()))) ∧
      (maxExposure < p.exposure → s.setExposure p.exposureMicros = do
        let (s', result) ← s.sendAcquisition
          ({ p with exposure := maxExposure } : Acquisition).withoutIdleBlanks
        return (s', result.map fun _ => ())) := by
  intro s
  have hcoherent : s.Coherent :=
    (Coherent.course (x := (new serial, w)) (coherent_new serial) link actions).1
  have hacquisition : s.acquisition.isSome = true := hcoherent.connected hconnected
  obtain ⟨p, hp⟩ := Option.isSome_iff_exists.mp hacquisition
  obtain ⟨f, hf⟩ := Option.isSome_iff_exists.mp (hcoherent.frame.trans hacquisition)
  refine ⟨p, f, hp, hf, setMode_self hp, updateFormat_self hf rfl, updateFormat_self hf rfl, ?_, ?_⟩
  · intro hblanks
    refine ⟨updateAcquisition_self hp hblanks rfl, updateAcquisition_self hp hblanks rfl, ?_⟩
    intro hshort
    apply updateAcquisition_self hp hblanks
    rw [Acquisition.exposureUnits_exposureMicros_of_le hshort]
  · exact hcoherent.setExposure_self_of_lt hconnected hp

/-- A session with the longest exposure that has its device average frames, and so has no blank
scans any more. -/
theorem averaging_own_values_are_free :
    let s := (course Emulator.link
      [.connect, .applyAcquisition ⟨5, 2, .everyFrameIdle, maxExposure⟩, .setMode .frameAveraging]
      (new none, .twin)).1
    s.isConnected = true ∧ s.exposureMicros? = some 4294967295 ∧
      s.setMode .frameAveraging = pure (s, .ok ()) ∧ s.setRange 0 3647 = pure (s, .ok ()) ∧
      s.setReduction .noAverage = pure (s, .ok ()) ∧ s.setScans 5 = pure (s, .ok ()) ∧
      s.setBlankScans 0 = pure (s, .ok ()) ∧ s.setExposure 4294967295 = pure (s, .ok ()) := by
  intro s
  have hconnected : s.isConnected = true := by decide
  have hacquisition : s.acquisition = some ⟨5, 0, .frameAveraging, maxExposure⟩ := by decide
  have hframe : s.frame = some .factory := by decide
  have hmicros : s.exposureMicros? = some 4294967295 := by decide
  obtain ⟨p, f, hp, hf, hmode, hrange, hreduction, hothers, -⟩ :=
    own_values_are_free Emulator.link .twin none _ hconnected
  obtain rfl : p = ⟨5, 0, .frameAveraging, maxExposure⟩ :=
    Option.some.inj (hp.symm.trans hacquisition)
  obtain rfl : f = .factory := Option.some.inj (hf.symm.trans hframe)
  obtain ⟨hscans, hblankScans, hexposure⟩ := hothers fun _ => rfl
  have hlongest := hexposure (UInt32.le_refl maxExposure)
  have hwhole :
      (⟨5, 0, .frameAveraging, maxExposure⟩ : Acquisition).exposureMicros = 4294967295 := by
    decide
  rw [hwhole] at hlongest
  exact ⟨hconnected, hmicros, hmode, hrange, hreduction, hscans, hblankScans, hlongest⟩

/-- The exposure of a session that asked for one unit more than the longest is cut when it is read,
and set to another one; and blank scans that a bare handle has set together with frame averaging are
taken back when the number of scans is set to what it is. -/
theorem own_values_not_free :
    (let s := (course Emulator.link
      [.connect, .applyAcquisition ⟨1, 0, .continuous, maxExposure + 1⟩] (new none, .twin)).1
     s.isConnected = true ∧ s.exposureMicros? = some 4294967295 ∧
       s.setExposure 4294967295 ≠ pure (s, .ok ())) ∧
    (let opened := (Emulator.link (.connectBySerial none .null) .twin).2
     let averaging :=
       (Emulator.link (.operate ⟨1⟩ (.setAcquisition ⟨1, 3, .frameAveraging, 10⟩)) opened).2
     let s := (course Emulator.link [.connect] (new none, averaging)).1
     s.isConnected = true ∧ s.acquisition.map (·.scans) = some 1 ∧
       s.setScans 1 ≠ pure (s, .ok ())) := by
  -- A driver that only counts tells a dialogue with a call from one without.
  have hcalls {s : Session} {d : Dialogue (Session × Except DeviceError Unit)}
      (hd : (d.run (Link.reply fun c n => (refusal .notFound c, n + 1)) 0).2 = 1) :
      d ≠ pure (s, .ok ()) := by
    intro hfree
    rw [hfree] at hd
    cases hd
  exact ⟨⟨by decide, by decide, hcalls (by decide)⟩, by decide, by decide, hcalls (by decide)⟩

end Spectrometer.Session
