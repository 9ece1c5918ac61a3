import HostChannel.Backend
import HostChannel.Proofs.Text.Names

/-!
# Which backend is opened

A setting that is blank or says `auto` admits every backend, and any other the backends of the name
that it spells, in letters of any case. Opening a host probes the admitted backends in order until
one of them yields a device; a backend that yields none, or fails, is only passed over
(`search_preferring`).
-/

namespace HostChannel

open Text.Blank (IsCore)
open Text.LetterCase (SameLetters)

namespace Preference

/-- The setting admits the backend of a name: between blank characters it says nothing, or `auto`,
or the name, where letters may be of any case. -/
def Admits (setting name : String) : Prop :=
  ∃ core, IsCore setting.toList core ∧
    (core = [] ∨ SameLetters core "auto".toList ∨ SameLetters core name.toList)

/-- A setting admits a name as its core says. -/
theorem admits_iff (setting name : String) :
    Admits setting name ↔ Text.Blank.trimList setting.toList = [] ∨
      SameLetters (Text.Blank.trimList setting.toList) "auto".toList ∨
      SameLetters (Text.Blank.trimList setting.toList) name.toList := by
  simp only [Admits, Text.Blank.isCore_iff, exists_eq_left']

/-- The preference that a setting spells allows the backends that the setting admits. -/
theorem allows_parse_iff (setting name : String) :
    (parse setting).allows name = true ↔ Admits setting name := by
  have core : (Text.Blank.trim setting).toList = Text.Blank.trimList setting.toList :=
    String.toList_ofList
  have empty : (Text.Blank.trim setting).isEmpty = true ↔
      Text.Blank.trimList setting.toList = [] := by
    rw [String.isEmpty_iff, ← String.toList_eq_nil_iff, core]
  have automatic := Text.LetterCase.sameIgnoringCase_iff (Text.Blank.trim setting) "auto"
  have named := Text.LetterCase.sameIgnoringCase_iff (Text.Blank.trim setting) name
  rw [core] at automatic named
  rw [admits_iff, ← empty, ← automatic, ← named, ← or_assoc, ← Bool.or_eq_true]
  simp only [parse]
  split
  · rename_i any
    simp only [allows, any, true_or]
  · rename_i other
    simp only [allows, other, Text.LetterCase.sameIgnoringCase_lower, Bool.false_eq_true, false_or]

/-- Whether a setting admits a name can be found out. -/
instance (setting name : String) : Decidable (Admits setting name) :=
  decidable_of_iff _ (allows_parse_iff setting name)

end Preference

/-- The configuration with the preference that a setting spells. -/
def Configuration.preferring (configuration : Configuration) (setting : String) : Configuration :=
  { configuration with backend := Preference.parse setting }

namespace Backend

variable {δ : Type} (configuration : Configuration)

/-- The backends that the configuration allows. -/
def allowed (probes : List (Probe δ)) : List (Probe δ) :=
  probes.filter fun probe => configuration.backend.allows probe.name

/-- The allowed backends of two lists are those of the one and those of the other. -/
theorem allowed_append (probes others : List (Probe δ)) :
    allowed configuration (probes ++ others) =
      allowed configuration probes ++ allowed configuration others :=
  List.filter_append ..

/-- The backend ends the search: it is allowed, and probing it finds the device. -/
def Stops (probe : Probe δ) (device : δ) : Prop :=
  configuration.backend.allows probe.name = true ∧ probe.find configuration = .ok (some device)

variable {configuration}

/-- The backend that ends the search is probed, and its device is opened. -/
theorem search_cons_of_stops {probe : Probe δ} {device : δ} (rest : List (Probe δ))
    (stops : Stops configuration probe device) :
    search configuration (probe :: rest) =
      ⟨[probe], .ok (.ofDevice configuration device)⟩ := by
  rw [search, if_pos stops.1, stops.2]

/-- Any other is passed over, and was probed if it is allowed: it has no device, or it failed. -/
theorem search_cons_of_not_stops {probe : Probe δ} (rest : List (Probe δ))
    (passed : ∀ device, ¬ Stops configuration probe device) :
    search configuration (probe :: rest) =
      ⟨allowed configuration [probe] ++ (search configuration rest).tried,
        (search configuration rest).opened⟩ := by
  by_cases admitted : configuration.backend.allows probe.name = true
  · have probed : allowed configuration [probe] = [probe] := by simp [allowed, admitted]
    rw [search, if_pos admitted, probed]
    split
    · rename_i device found
      exact absurd ⟨admitted, found⟩ (passed device)
    · rfl
  · have skipped : allowed configuration [probe] = [] := by simp [allowed, admitted]
    rw [search, if_neg admitted, skipped]
    rfl

/-- A search probes the allowed backends up to the first that has a device, which is opened; if
none has, it probes all that are allowed and there is nothing to open. -/
theorem search_cases (configuration : Configuration) (probes : List (Probe δ)) :
    (∃ before probe after device, probes = before ++ probe :: after ∧
        Stops configuration probe device ∧
        (∀ earlier ∈ before, ∀ other, ¬ Stops configuration earlier other) ∧
        search configuration probes =
          ⟨allowed configuration before ++ [probe],
            .ok (.ofDevice configuration device)⟩) ∨
      (∀ probe ∈ probes, ∀ device, ¬ Stops configuration probe device) ∧
        search configuration probes = ⟨allowed configuration probes, .error .noBackend⟩ := by
  induction probes with
  | nil => exact .inr ⟨by simp, rfl⟩
  | cons head rest ih =>
    by_cases first : ∃ device, Stops configuration head device
    · obtain ⟨device, stops⟩ := first
      exact .inl ⟨[], head, rest, device, rfl, stops, by simp, search_cons_of_stops rest stops⟩
    · have passed := not_exists.mp first
      have split : ∀ others : List (Probe δ), allowed configuration (head :: others) =
          allowed configuration [head] ++ allowed configuration others :=
        fun others => allowed_append configuration [head] others
      rw [search_cons_of_not_stops rest passed]
      rcases ih with ⟨before, probe, after, device, rfl, stops, earlier, searched⟩ |
        ⟨nowhere, searched⟩
      · refine .inl ⟨head :: before, probe, after, device, rfl, stops, ?_, ?_⟩
        · exact List.forall_mem_cons.mpr ⟨passed, earlier⟩
        · rw [searched, split before, List.append_assoc]
      · refine .inr ⟨List.forall_mem_cons.mpr ⟨passed, nowhere⟩, ?_⟩
        rw [searched, split rest]

/-- Under the preference that a setting spells, the backends that the setting admits are probed in
order up to the first that finds a device, which is opened under the configuration. If none does,
all that are admitted are probed and there is no backend. -/
theorem search_preferring (configuration : Configuration) (setting : String)
    (probes : List (Probe δ)) :
    (∃ before probe after device, probes = before ++ probe :: after ∧
        Preference.Admits setting probe.name ∧
        probe.find (configuration.preferring setting) = .ok (some device) ∧
        (∀ earlier ∈ before, Preference.Admits setting earlier.name →
          ∀ other, earlier.find (configuration.preferring setting) ≠ .ok (some other)) ∧
        search (configuration.preferring setting) probes =
          ⟨(before.filter fun earlier => Preference.Admits setting earlier.name) ++ [probe],
            .ok (.ofDevice (configuration.preferring setting) device)⟩) ∨
      (∀ probe ∈ probes, Preference.Admits setting probe.name →
          ∀ device, probe.find (configuration.preferring setting) ≠ .ok (some device)) ∧
        search (configuration.preferring setting) probes =
          ⟨probes.filter fun probe => Preference.Admits setting probe.name,
            .error .noBackend⟩ := by
  have stops : ∀ (probe : Probe δ) (device : δ),
      Stops (configuration.preferring setting) probe device ↔
        Preference.Admits setting probe.name ∧
          probe.find (configuration.preferring setting) = .ok (some device) := by
    intro probe device
    rw [Stops, Configuration.preferring, Preference.allows_parse_iff]
  have admits : (fun probe : Probe δ =>
      (configuration.preferring setting).backend.allows probe.name) =
        fun probe => decide (Preference.Admits setting probe.name) := by
    funext probe
    rw [Configuration.preferring, Bool.eq_iff_iff, Preference.allows_parse_iff, decide_eq_true_iff]
  have chosen : ∀ probes : List (Probe δ),
      allowed (configuration.preferring setting) probes =
        probes.filter fun probe => Preference.Admits setting probe.name := by
    intro probes
    rw [allowed, admits]
  have searched := search_cases (configuration.preferring setting) probes
  simp only [stops, chosen, not_and, and_assoc] at searched
  have passed : ∀ probe : Probe δ, (∀ device, Preference.Admits setting probe.name →
      ¬ probe.find (configuration.preferring setting) = .ok (some device)) ↔
        (Preference.Admits setting probe.name →
          ∀ device, probe.find (configuration.preferring setting) ≠ .ok (some device)) :=
    fun probe => forall_comm
  simpa only [passed] using searched

end Backend

end HostChannel
