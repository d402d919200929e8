import SmartHelmet.Config.Lookup
import Mathlib.Data.List.TakeWhile
import SmartHelmet.Proofs.Except
/-!
# Blank settings

Most settings are trimmed of blanks before they are read, and a setting that is blank once
trimmed counts as unset. Three are read as given: the user name, which counts as unset only when
it is empty, the password, and the seed. So a setting can be set to blanks, or left unset, with
the same configuration as the result, except for those three:

* `Config.Unset`, `Config.Blankly` — a value that is unset or all blanks, and two lookups that
  differ at most in such values;
* `text_blankly`, `parsed_blankly`, `positive_blankly`, `probability_blankly` — each trimmed
  reading gives the same value, or the same error, on two such lookups;
* `Config.withUsername`, `ofLookup_congr` — the configuration of two such lookups that agree on
  the password and the seed is the same but for the user name, which is read as given;
* `ofLookup_unset` — no settings give the default configuration;
* `ofLookup_blank_as_unset` — setting one name to blanks is leaving it unset, but for the user
  name, which a non-empty run of blanks sets (`blank_username_is_kept`).
-/

namespace SmartHelmet.Config

/-! ## 1. Blank values -/

/-- A value that is unset or made of blanks only (the empty text included). -/
def Unset (o : Option String) : Prop := ∀ v ∈ o, v.toList.all Text.isBlank = true

/-- Two lookups that agree on every name, up to whether a blank value is set. -/
def Blankly (l₁ l₂ : Lookup) : Prop := ∀ k, l₁ k = l₂ k ∨ (Unset (l₁ k) ∧ Unset (l₂ k))

theorem Blankly.refl (l : Lookup) : Blankly l l := fun _ => .inl rfl

/-- Setting a name to blanks or leaving it unset gives two lookups that differ only so. -/
theorem Blankly.update (l : Lookup) (key : String) {v : String}
    (hv : v.toList.all Text.isBlank = true) :
    Blankly (Function.update l key (some v)) (Function.update l key none) := by
  intro k
  by_cases hk : k = key
  · subst hk
    refine .inr ⟨?_, ?_⟩
    · intro w hw
      rw [Function.update_self, Option.mem_def, Option.some.injEq] at hw
      rw [← hw]
      exact hv
    · intro w hw
      rw [Function.update_self] at hw
      cases hw
  · left
    rw [Function.update_of_ne hk, Function.update_of_ne hk]

/-- A text of blanks trims to nothing. -/
theorem trim_blank {v : String} (h : v.toList.all Text.isBlank = true) : Text.trim v = "" := by
  have hdrop : v.toList.dropWhile Text.isBlank = [] :=
    List.dropWhile_eq_nil_iff.2 fun c hc => List.all_eq_true.1 h c hc
  simp [Text.trim, Text.trimStart, Text.trimEnd, hdrop]

/-! ## 2. Trimmed readings -/

theorem text_of_unset {l : Lookup} {k d : String} (h : Unset (l k)) : text l k d = d := by
  unfold text
  split
  · rename_i v hv
    rw [trim_blank (h v hv)]
    rfl
  · rfl

theorem parsed_of_unset {α : Type} {l : Lookup} {k : String} {read : String → Option α} {d : α}
    (h : Unset (l k)) : parsed l k read d = .ok d := by
  unfold parsed
  split
  · rename_i v hv
    rw [trim_blank (h v hv)]
    rfl
  · rfl

section Congruence

variable {l₁ l₂ : Lookup}

theorem text_blankly (h : Blankly l₁ l₂) (k d : String) : text l₁ k d = text l₂ k d := by
  rcases h k with he | ⟨h₁, h₂⟩
  · simp only [text, he]
  · rw [text_of_unset h₁, text_of_unset h₂]

theorem parsed_blankly {α : Type} (h : Blankly l₁ l₂) (k : String) (read : String → Option α)
    (d : α) : parsed l₁ k read d = parsed l₂ k read d := by
  rcases h k with he | ⟨h₁, h₂⟩
  · simp only [parsed, he]
  · rw [parsed_of_unset h₁, parsed_of_unset h₂]

theorem positive_blankly (h : Blankly l₁ l₂) (k : String) (d : Nat) :
    positive l₁ k d = positive l₂ k d := by
  simp only [positive, parsed_blankly h]

theorem probability_blankly (h : Blankly l₁ l₂) (k : String) (d : Float) :
    probability l₁ k d = probability l₂ k d := by
  simp only [probability, parsed_blankly h]

theorem seedValue_congr (h : l₁ "SIM_SEED" = l₂ "SIM_SEED") : seedValue l₁ = seedValue l₂ := by
  simp only [seedValue, h]

end Congruence

/-! ## 3. The configuration -/

/-- A configuration with another user name. -/
def withUsername (u : Option String) (c : Config) : Config :=
  { c with broker := { c.broker with username := u } }

/-- **Blank values do not matter but for the user name**: two lookups that differ at most in
    blank values, and agree on the password and the seed, give the same configuration or the
    same error, with the user name as the first lookup gives it. -/
theorem ofLookup_congr {l₁ l₂ : Lookup} (h : Blankly l₁ l₂)
    (hp : l₁ "MQTT_PASSWORD" = l₂ "MQTT_PASSWORD") (hs : l₁ "SIM_SEED" = l₂ "SIM_SEED") :
    ofLookup l₁ =
      withUsername ((l₁ "MQTT_USERNAME").filter (!·.isEmpty)) <$> ofLookup l₂ := by
  simp only [ofLookup, text_blankly h, parsed_blankly h, positive_blankly h,
    probability_blankly h, seedValue_congr hs, hp]
  -- a check that fails ends the reading, so only the last step builds a configuration
  simp only [except_throw_bind, map_bind, except_map_ite, except_map_throw, map_pure, withUsername]

/-- **No settings give the default configuration.** -/
theorem ofLookup_unset : ofLookup (fun _ => none) = .ok {} := by
  have hdrowsy : (0.0 : Float) ≤ 0.1 ∧ (0.1 : Float) ≤ 1.0 := by decide
  have hcrash : (0.0 : Float) ≤ 2e-2 ∧ (2e-2 : Float) ≤ 1.0 := by decide
  simp [ofLookup, text, parsed, positive, probability, seedValue, leavesTopic, String.any, bind,
    Except.bind, pure, Except.pure, hdrowsy, hcrash]

/-- The user name a lookup gives is the one its configuration holds. -/
theorem ofLookup_username (l : Lookup) :
    withUsername ((l "MQTT_USERNAME").filter (!·.isEmpty)) <$> ofLookup l = ofLookup l :=
  (ofLookup_congr (Blankly.refl l) rfl rfl).symm

/-- **Setting a name to blanks is leaving it unset**, for every name but the password and the
    seed, which are read as given: the configuration, or the error, is the same. The user name is
    read as given too, but only the empty one counts as unset, so a non-empty run of blanks is
    the user name. -/
theorem ofLookup_blank_as_unset (l : Lookup) {key v : String}
    (hv : v.toList.all Text.isBlank = true) (hpass : key ≠ "MQTT_PASSWORD")
    (hseed : key ≠ "SIM_SEED") :
    ofLookup (Function.update l key (some v)) =
      if key = "MQTT_USERNAME" ∧ v ≠ "" then
        withUsername (some v) <$> ofLookup (Function.update l key none)
      else ofLookup (Function.update l key none) := by
  rw [ofLookup_congr (Blankly.update l key hv) (by rw [Function.update_of_ne hpass.symm,
    Function.update_of_ne hpass.symm]) (by rw [Function.update_of_ne hseed.symm,
    Function.update_of_ne hseed.symm])]
  split_ifs with hu
  · -- the blanks are the user name
    obtain ⟨rfl, hne⟩ := hu
    have hv' : (!v.isEmpty) = true := by simpa [String.isEmpty_iff] using hne
    simp [Function.update_self, Option.filter, hv']
  · -- the user name reads as it does unset
    have hname : (Function.update l key (some v) "MQTT_USERNAME").filter (!·.isEmpty) =
        (Function.update l key none "MQTT_USERNAME").filter (!·.isEmpty) := by
      by_cases hk : key = "MQTT_USERNAME"
      · subst hk
        have hempty : v = "" := by
          by_contra hne
          exact hu ⟨rfl, hne⟩
        simp [Function.update_self, Option.filter, hempty]
      · rw [Function.update_of_ne (Ne.symm hk), Function.update_of_ne (Ne.symm hk)]
    rw [hname, ofLookup_username]

/-- Setting the device id to two blanks, with nothing else set, is leaving it unset. -/
theorem ofLookup_blank_device_as_unset :
    ("  ".toList.all Text.isBlank = true ∧ ("DEVICE_ID" : String) ≠ "MQTT_PASSWORD" ∧
      ("DEVICE_ID" : String) ≠ "SIM_SEED") ∧
    ofLookup (Function.update (fun _ => none) "DEVICE_ID" (some "  ")) =
      if ("DEVICE_ID" : String) = "MQTT_USERNAME" ∧ ("  " : String) ≠ "" then
        withUsername (some "  ") <$> ofLookup (Function.update (fun _ => none) "DEVICE_ID" none)
      else ofLookup (Function.update (fun _ => none) "DEVICE_ID" none) :=
  ⟨⟨by decide, by decide, by decide⟩, ofLookup_blank_as_unset _ (by decide) (by decide) (by decide)⟩

/-- **A blank user name is kept**: set to one blank, with nothing else set, it is the user name,
    where unset there is none. -/
theorem blank_username_is_kept :
    ofLookup (Function.update (fun _ => none) "MQTT_USERNAME" (some " ")) ≠
      ofLookup (Function.update (fun _ => none) "MQTT_USERNAME" none) := by
  have hunset : Function.update (fun _ : String => (none : Option String)) "MQTT_USERNAME" none =
      fun _ => none := Function.update_eq_self _ _
  rw [ofLookup_congr (Blankly.update _ _ (by decide)) (by simp [Function.update])
    (by simp [Function.update]), hunset, ofLookup_unset]
  intro h
  have hname := congrArg (Except.map (·.broker.username)) h
  simp [withUsername, Function.update, Except.map] at hname

end SmartHelmet.Config
