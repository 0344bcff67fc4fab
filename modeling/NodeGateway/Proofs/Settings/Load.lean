import NodeGateway.Proofs.Url.Authority
import NodeGateway.Settings.Basic

/-!
# What Loaded Settings Are

Settings that are loaded were read from texts and passed the check. So the endpoints of each layer
are URLs that were read, and a fallback is another URL than its primary (`Settings.of_load`).
-/

namespace NodeGateway

namespace SettingRecord

variable {α : Type} {record : SettingRecord} {name : String}
  {convert : SettingPath → SettingTree → Converted α}

/-- A field that was converted was converted from something. -/
theorem exists_of_convert? {a : α} (h : record.convert? name convert = .ok (some a)) :
    ∃ path value, convert path value = .ok a := by
  unfold convert? at h
  split at h
  · rename_i path value _
    refine ⟨path, value, ?_⟩
    cases hconvert : convert path value with
    | error reason => rw [hconvert] at h; cases h
    | ok b =>
        rw [hconvert] at h
        exact congrArg Except.ok (Option.some.inj (Except.ok.inj h))
  · cases h

/-- A field that has to be there is there. -/
theorem eq_some_of_require {value : Option α} {a : α} (h : record.require name value = .ok a) :
    value = some a := by
  cases value with
  | none => cases h
  | some b => exact congrArg some (Except.ok.inj h)

end SettingRecord

namespace SettingTree

/-- A URL is read from a text. -/
theorem exists_parse_of_toUrl {path : SettingPath} {value : SettingTree} {url : Url}
    (h : value.toUrl path = .ok url) : ∃ text, Url.parse text = .ok url := by
  obtain ⟨text, -, h⟩ := exists_of_bind_eq_ok h
  split at h
  · rename_i read hread
    obtain rfl := Except.ok.inj h
    exact ⟨text, hread⟩
  · cases h

/-- A URL that may be left empty is read from a text if it is there. -/
theorem exists_parse_of_toUrl? {path : SettingPath} {value : SettingTree} {url : Url}
    (h : value.toUrl? path = .ok (some url)) : ∃ text, Url.parse text = .ok url := by
  unfold toUrl? at h
  split at h
  · cases h
  · obtain ⟨text, -, h⟩ := exists_of_bind_eq_ok h
    dsimp only at h
    split at h
    · cases h
    · split at h
      · rename_i read hread
        obtain rfl : read = url := Option.some.inj (Except.ok.inj h)
        exact ⟨_, hread⟩
      · cases h

end SettingTree

namespace LayerSettings

/-- **The endpoints of a layer** are read from texts. -/
theorem exists_parse_of_read {path : SettingPath} {tree : SettingTree} {layer : LayerSettings}
    (h : read path tree = .ok layer) :
    (∃ text, Url.parse text = .ok layer.primary) ∧
      ∀ fallback, layer.fallback = some fallback → ∃ text, Url.parse text = .ok fallback := by
  obtain ⟨record, -, h⟩ := exists_of_bind_eq_ok h
  obtain ⟨primary?, hprimary, h⟩ := exists_of_bind_eq_ok h
  obtain ⟨fallback?, hfallback, h⟩ := exists_of_bind_eq_ok h
  obtain ⟨fast, -, h⟩ := exists_of_bind_eq_ok h
  obtain ⟨slow, -, h⟩ := exists_of_bind_eq_ok h
  obtain ⟨primary, hneeded, h⟩ := exists_of_bind_eq_ok h
  obtain rfl := Except.ok.inj h
  obtain rfl := SettingRecord.eq_some_of_require hneeded
  refine ⟨?_, ?_⟩
  · obtain ⟨_, _, hurl⟩ := SettingRecord.exists_of_convert? hprimary
    exact SettingTree.exists_parse_of_toUrl hurl
  · intro fallback hsome
    cases fallback? with
    | none => cases hsome
    | some given =>
        obtain rfl : given = some fallback := hsome
        obtain ⟨_, _, hurl⟩ := SettingRecord.exists_of_convert? hfallback
        exact SettingTree.exists_parse_of_toUrl? hurl

end LayerSettings

namespace Settings

/-- The settings of the service are put together with those of a layer. -/
theorem layers_of_readService {path : SettingPath} {tree : SettingTree}
    {service : LayerSettings → LayerSettings → Duration → Settings}
    (h : readService path tree = .ok service) (execution beacon : LayerSettings)
    (delay : Duration) :
    (service execution beacon delay).execution = execution ∧
      (service execution beacon delay).beacon = beacon := by
  iterate 12 obtain ⟨_, -, h⟩ := exists_of_bind_eq_ok h
  obtain rfl := Except.ok.inj h
  exact ⟨rfl, rfl⟩

/-- What a layer of settings that were read was read from. -/
theorem exists_read_of_read {tree : SettingTree} {settings : Settings}
    (h : read tree = .ok settings) :
    (∃ path value, LayerSettings.read path value = .ok settings.execution) ∧
      ∃ path value, LayerSettings.read path value = .ok settings.beacon := by
  obtain ⟨record, -, h⟩ := exists_of_bind_eq_ok h
  obtain ⟨execution?, hexecution, h⟩ := exists_of_bind_eq_ok h
  obtain ⟨beacon?, hbeacon, h⟩ := exists_of_bind_eq_ok h
  obtain ⟨fallback, -, h⟩ := exists_of_bind_eq_ok h
  obtain ⟨service?, hservice, h⟩ := exists_of_bind_eq_ok h
  obtain ⟨execution, hexecutionNeeded, h⟩ := exists_of_bind_eq_ok h
  obtain ⟨beacon, hbeaconNeeded, h⟩ := exists_of_bind_eq_ok h
  obtain ⟨service, hserviceNeeded, h⟩ := exists_of_bind_eq_ok h
  obtain rfl := Except.ok.inj h
  obtain rfl := SettingRecord.eq_some_of_require hexecutionNeeded
  obtain rfl := SettingRecord.eq_some_of_require hbeaconNeeded
  obtain rfl := SettingRecord.eq_some_of_require hserviceNeeded
  obtain ⟨_, _, hservice⟩ := SettingRecord.exists_of_convert? hservice
  obtain ⟨hfirst, hsecond⟩ := layers_of_readService hservice execution beacon
    (fallback.getD defaultReconnectDelay)
  rw [hfirst, hsecond]
  exact ⟨SettingRecord.exists_of_convert? hexecution, SettingRecord.exists_of_convert? hbeacon⟩

/-- Settings that pass the check have fallbacks that are other URLs than their primaries. -/
theorem hasDistinctFallback_of_check {settings : Settings} (h : settings.check = .ok ()) :
    settings.execution.hasDistinctFallback = true ∧ settings.beacon.hasDistinctFallback = true := by
  unfold check at h
  cases hexecution : settings.execution.hasDistinctFallback with
  | false => rw [hexecution] at h; cases h
  | true =>
      cases hbeacon : settings.beacon.hasDistinctFallback with
      | false => rw [hexecution, hbeacon] at h; cases h
      | true => exact ⟨rfl, rfl⟩

/-- **Of settings that were loaded**, both layers have endpoints that are read from texts, and a
fallback is another URL than its primary. -/
theorem of_load {file : SettingTree} {environment : List (String × String)} {settings : Settings}
    (h : load file environment = .ok settings) :
    ∀ layer ∈ [settings.execution, settings.beacon],
      (∃ text, Url.parse text = .ok layer.primary) ∧
        ∀ fallback, layer.fallback = some fallback →
          (∃ text, Url.parse text = .ok fallback) ∧ fallback ≠ layer.primary := by
  obtain ⟨read, hread, h⟩ := exists_of_bind_eq_ok h
  obtain ⟨⟨⟩, hcheck, h⟩ := exists_of_bind_eq_ok h
  obtain rfl : read = settings := Except.ok.inj h
  have hlayer : ∀ layer : LayerSettings,
      (∃ path value, LayerSettings.read path value = .ok layer) →
      layer.hasDistinctFallback = true →
      (∃ text, Url.parse text = .ok layer.primary) ∧
        ∀ fallback, layer.fallback = some fallback →
          (∃ text, Url.parse text = .ok fallback) ∧ fallback ≠ layer.primary := by
    intro layer ⟨path, value, hlayer⟩ hdistinct
    obtain ⟨hprimary, hfallback⟩ := LayerSettings.exists_parse_of_read hlayer
    refine ⟨hprimary, fun fallback hsome => ⟨hfallback fallback hsome, ?_⟩⟩
    rintro rfl
    simp [LayerSettings.hasDistinctFallback, hsome] at hdistinct
  obtain ⟨hexecution, hbeacon⟩ := exists_read_of_read hread
  obtain ⟨hfirst, hsecond⟩ := hasDistinctFallback_of_check hcheck
  intro layer hmem
  simp only [List.mem_cons, List.not_mem_nil, or_false] at hmem
  rcases hmem with rfl | rfl
  · exact hlayer _ hexecution hfirst
  · exact hlayer _ hbeacon hsecond

/-- Settings of whose layers something is known were loaded. -/
theorem exists_of_map_load {α : Type} {part : Settings → α} {file : SettingTree}
    {environment : List (String × String)} {a : α}
    (h : (load file environment).map part = .ok a) :
    ∃ settings, load file environment = .ok settings ∧ part settings = a := by
  cases hload : load file environment with
  | error reason => rw [hload] at h; cases h
  | ok settings =>
      rw [hload] at h
      exact ⟨settings, rfl, Except.ok.inj h⟩

end Settings

end NodeGateway
