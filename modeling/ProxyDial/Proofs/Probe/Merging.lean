import ProxyDial.Probe.Config
import ProxyDial.Proofs.Dial.Safety
import ProxyDial.Proofs.Options.Members
import ProxyDial.Proofs.Text.Pieces

/-!
# Flags over a file of options

*Configurations.*  A probe has the configuration in the file that it is given, or none if it is
given no file (`Probe.Configured`).  The fields that a configuration leaves out have the default
values of a dialer (`Options.ofJson?_eq_some_iff`).

*Merging.*  Flags come first, then the configuration, then the defaults of the probe, whose
timeouts are shorter than those of a dialer (`Probe.merged`).  Options are loaded unless the file
has no configuration or the user id that results cannot be sent (`Probe.loadOptions_eq_ok_iff`).
Nothing is asked of a user id that a flag overrides.
-/

namespace ProxyDial

open Json (Value)

/-! ## Texts of options -/

namespace Options

variable {text : String} {v : Value} {o : Options} {members : List (Field × Value)}

/-- Which values say something of each field once at most, and what they say of which fields. -/
inductive Gives : Value → List (Field × Value) → Prop where
  | object {written : List (List Json.Part × Value)} (hnamed : Named written)
      (hnodup : ((known written).map Prod.fst).Nodup) : Gives (.object written) (known written)
  | array {items : List Value} (hlength : items.length ≤ 5) :
      Gives (.array items) (Field.all.zip items)

theorem ofJson?_eq_some_iff : ofJson? text = some o ↔
    ∃ v members, v.Text text.toList ∧ Gives v members ∧ Sets {} members o := by
  constructor
  · intro h
    obtain ⟨v, -, hv⟩ := exists_text_of_ofJson? h
    cases v with
    | object written =>
      obtain ⟨hnamed, hnodup, hsets⟩ := (ofJson?_object_eq_some_iff hv).1 h
      exact ⟨_, _, hv, .object hnamed hnodup, hsets⟩
    | array items =>
      obtain ⟨hlength, hsets⟩ := (ofJson?_array_eq_some_iff hv).1 h
      exact ⟨_, _, hv, .array hlength, hsets⟩
    | null => cases (ofJson?_of_text hv).symm.trans h
    | bool b => cases (ofJson?_of_text hv).symm.trans h
    | number n => cases (ofJson?_of_text hv).symm.trans h
    | string parts => cases (ofJson?_of_text hv).symm.trans h
  · rintro ⟨v, members, hv, hgives, hsets⟩
    cases hgives with
    | object hnamed hnodup => exact (ofJson?_object_eq_some_iff hv).2 ⟨hnamed, hnodup, hsets⟩
    | array hlength => exact (ofJson?_array_eq_some_iff hv).2 ⟨hlength, hsets⟩

end Options

namespace Probe

/-! ## Configurations -/

variable {faultIn : String → String} {a : Arguments} {files : Files} {path : Option String}
  {config config' : Option Options} {o : Options}

theorem fromUTF8?_eq_some_iff {bytes : ByteArray} {text : String} :
    String.fromUTF8? bytes = some text ↔ bytes = text.toUTF8 := by
  unfold String.fromUTF8?
  constructor
  · intro h
    split at h
    · cases h
      rfl
    · cases h
  · rintro rfl
    exact dif_pos text.isValidUTF8

theorem Files.readText_eq_ok_iff {path text : String} :
    files.readText path = .ok text ↔ files path = .ok text.toUTF8.data.toList := by
  rw [readText]
  cases files path with
  | error e =>
    constructor
    · intro h
      cases h
    · intro h
      cases h
  | ok bytes =>
    have hbytes : ByteArray.mk bytes.toArray = text.toUTF8 ↔ bytes = text.toUTF8.data.toList := by
      rw [ByteArray.ext_iff, Array.toArray_eq]
    rw [Except.ok.injEq, ← hbytes, ← fromUTF8?_eq_some_iff]
    refine (Eq.congr_left (pure_bind bytes _)).trans ?_
    cases String.fromUTF8? ⟨bytes.toArray⟩ <;> simp

/-- A file that was added is read where paths begin. -/
theorem FileTree.toFiles_addHere {t : FileTree} {name : String} {content : List UInt8}
    (hname : name.toList ≠ [] ∧ name.toList ≠ ['.'] ∧ name.toList ≠ ['.', '.'])
    (hslash : '/' ∉ name.toList) (hnul : '\x00' ∉ name.toList)
    (hshort : name.utf8ByteSize ≤ maxName) :
    (t.addHere name content).toFiles name = .ok content := by
  have hne : name ≠ "" := by
    rintro rfl
    exact hname.1 rfl
  have hpath : ¬maxPath < name.utf8ByteSize := Nat.not_lt.2 (hshort.trans (by decide))
  have hhere : name.toList.head? ≠ some '/' := fun h => hslash (List.mem_of_mem_head? h)
  have hwalk : (t.addHere name content).walk t.here [name.toList] = .ok content := by
    rw [walk, String.ofList_toList, if_neg (by simp [hname]), if_neg hname.2.2,
      if_neg (Nat.not_lt.2 hshort)]
    simp [addHere]
  rw [toFiles, if_neg hnul, if_neg hne, if_neg hpath, if_neg hhere, pieces_of_not_mem hslash]
  exact hwalk

/-- What the file that is given says, if one is given. -/
inductive Configured (files : Files) : Option String → Option Options → Prop where
  | absent : Configured files none none
  | read {path text : String} {config : Options}
      (htext : files path = .ok text.toUTF8.data.toList)
      (hconfig : Options.ofJson? text = some config) :
      Configured files (some path) (some config)

theorem baseOptions_eq_ok_iff : baseOptions faultIn a files = .ok o ↔
    ∃ config, Configured files a.config config ∧ config.getD defaultOptions = o := by
  unfold baseOptions
  cases a.config with
  | none =>
    constructor
    · intro h
      cases h
      exact ⟨none, .absent, rfl⟩
    · rintro ⟨config, ⟨⟩, rfl⟩
      rfl
  | some path =>
    constructor
    · intro h
      dsimp only at h
      split at h
      · cases h
      · rename_i text htext
        split at h
        · cases h
        · rename_i config hconfig
          cases h
          exact ⟨_, .read (Files.readText_eq_ok_iff.1 htext) hconfig, rfl⟩
    · rintro ⟨config, ⟨⟩ | ⟨htext, hconfig⟩, rfl⟩
      simp only [Files.readText_eq_ok_iff.2 htext, hconfig, Option.getD_some]

theorem Configured.unique (h : Configured files path config) (h' : Configured files path config') :
    config = config' := by
  cases h with
  | absent =>
    cases h'
    rfl
  | read htext hconfig =>
    cases h' with
    | read htext' hconfig' =>
      rw [← Files.readText_eq_ok_iff] at htext htext'
      cases htext.symm.trans htext'
      rw [← hconfig, ← hconfig']

/-! ## Merging -/

/-- The user id of a flag, or else of a configuration, or else the one of every dialer. -/
def effectiveUserId (flag : Option String) (config : Option Options) : String :=
  flag.getD (config.elim "socks4-connect" Options.userId)

/-- The flags over a configuration. -/
def merged (a : Arguments) (config : Option Options) : Options where
  connectTimeoutSecs := a.timeout.getD (config.elim 5 Options.connectTimeoutSecs)
  handshakeTimeoutSecs := a.timeout.getD (config.elim 5 Options.handshakeTimeoutSecs)
  resolveTimeoutSecs := config.bind Options.resolveTimeoutSecs
  family := config.elim .any Options.family
  userId := effectiveUserId a.userId config

theorem override_getD (a : Arguments) (config : Option Options) :
    override a (config.getD defaultOptions) = merged a config := by
  cases config <;> rfl

theorem loadOptions_eq_ok_iff : loadOptions faultIn a files = .ok o ↔
    ∃ config, Configured files a.config config ∧
      UserId.IsSendable (UserId.ofString (effectiveUserId a.userId config)) ∧
        merged a config = o := by
  constructor
  · intro h
    unfold loadOptions at h
    split at h
    · cases h
    · rename_i base hbase
      obtain ⟨config, hconfig, rfl⟩ := baseOptions_eq_ok_iff.1 hbase
      dsimp only at h
      split at h
      · rename_i hvalid
        cases h
        rw [override_getD] at hvalid ⊢
        exact ⟨config, hconfig, (Options.validate_eq_ok_iff _).1 hvalid, rfl⟩
      · cases h
  · rintro ⟨config, hconfig, hsendable, rfl⟩
    have hbase : baseOptions faultIn a files = .ok (config.getD defaultOptions) :=
      baseOptions_eq_ok_iff.2 ⟨config, hconfig, rfl⟩
    have hvalid := (Options.validate_eq_ok_iff (merged a config)).2 hsendable
    rw [loadOptions, hbase]
    dsimp only
    rw [override_getD, hvalid]

theorem exists_loadOptions_iff : (∃ o, loadOptions faultIn a files = .ok o) ↔
    ∃ config, Configured files a.config config ∧
      UserId.IsSendable (UserId.ofString (effectiveUserId a.userId config)) := by
  simp only [loadOptions_eq_ok_iff]
  constructor
  · rintro ⟨o, config, hconfig, hsendable, -⟩
    exact ⟨config, hconfig, hsendable⟩
  · rintro ⟨config, hconfig, hsendable⟩
    exact ⟨_, config, hconfig, hsendable, rfl⟩

/-- What is given by a flag or a configuration stays so when the result is the configuration. -/
theorem merged_merged (a : Arguments) (config : Option Options) :
    merged a (some (merged a config)) = merged a config := by
  unfold merged effectiveUserId
  cases a.timeout <;> cases a.userId <;> rfl

/-- Options are loaded if there is no file or the file is text that writes options, and the user
id that counts can be sent.  The timeouts are those of the flag, or else of the file, where a
missing one is ten seconds, or else five seconds. -/
theorem loadOptions_merges (faultIn : String → String) :
    (∀ a files o, loadOptions faultIn a files = .ok o ↔
      ∃ config, Configured files a.config config ∧
        UserId.IsSendable (UserId.ofString (effectiveUserId a.userId config)) ∧
          merged a config = o) ∧
    (∀ text config, Options.ofJson? text = some config ↔
      ∃ v members, v.Text text.toList ∧ Options.Gives v members ∧
        Options.Sets ⟨10, 10, none, .any, "socks4-connect"⟩ members config) ∧
    -- A flag mends a user id from a file, and nothing mends the one of a flag.
    (∀ a files config, Configured files a.config (some config) →
      ¬UserId.IsSendable (UserId.ofString config.userId) →
        ((∃ o, loadOptions faultIn a files = .ok o) ↔
          ∃ userId, a.userId = some userId ∧ UserId.IsSendable (UserId.ofString userId))) ∧
    (∀ a files userId o, a.userId = some userId →
      ¬UserId.IsSendable (UserId.ofString userId) → loadOptions faultIn a files ≠ .ok o) ∧
    -- The timeout flag does not count for success.
    (∀ (a : Arguments) files timeout,
      (∃ o, loadOptions faultIn { a with timeout } files = .ok o) ↔
        ∃ o, loadOptions faultIn a files = .ok o) ∧
    -- What was loaded may be written to a file and loaded again.
    ∀ (a : Arguments) files files' path o, loadOptions faultIn a files = .ok o →
      files' path = .ok o.toJson.toUTF8.data.toList →
        loadOptions faultIn { a with config := some path } files' = .ok o := by
  refine ⟨fun _ _ _ => loadOptions_eq_ok_iff, fun _ _ => Options.ofJson?_eq_some_iff, ?mended,
    ?refused, ?timeout, ?reloaded⟩
  case mended =>
    intro a files config hconfig hinvalid
    rw [exists_loadOptions_iff]
    constructor
    · rintro ⟨config', hconfig', hsendable⟩
      cases hconfig.unique hconfig'
      cases huser : a.userId with
      | none =>
        rw [huser] at hsendable
        exact absurd hsendable hinvalid
      | some userId =>
        rw [huser] at hsendable
        exact ⟨userId, rfl, hsendable⟩
    · rintro ⟨userId, huser, hsendable⟩
      exact ⟨some config, hconfig, by rw [huser]; exact hsendable⟩
  case refused =>
    intro a files userId o huser hinvalid h
    obtain ⟨config, -, hsendable, -⟩ := loadOptions_eq_ok_iff.1 h
    rw [huser] at hsendable
    exact hinvalid hsendable
  case timeout =>
    intro a files timeout
    rw [exists_loadOptions_iff, exists_loadOptions_iff]
  case reloaded =>
    intro a files files' path o h htext
    obtain ⟨config, -, hsendable, rfl⟩ := loadOptions_eq_ok_iff.1 h
    have hread : Configured files' (some path) (some (merged a config)) :=
      .read htext (Options.ofJson?_toJson _)
    refine loadOptions_eq_ok_iff.2 ⟨_, hread, ?_, merged_merged a config⟩
    have huser : effectiveUserId a.userId (some (merged a config)) =
        effectiveUserId a.userId config := congrArg Options.userId (merged_merged a config)
    rwa [huser]

/-- A file has a user id that cannot be sent and no timeouts.  With a flag for the user id it is
usable, and without one or with one as bad it is not. -/
theorem loadOptions_merges_mended :
    let text := "\x7b\"family\":\"v4_only\",\"user_id\":\"\\u0000\"\x7d"
    let files : Files := fun _ => .ok text.toUTF8.data.toList
    let faultIn : String → String := fun _ => "EOF while parsing"
    let a : Arguments := { userId := some "me", config := some "socks.json" }
    let o : Options := ⟨10, 10, none, .v4Only, "me"⟩
    loadOptions faultIn a files = .ok o ∧
      (∃ o, loadOptions faultIn { a with timeout := some 3 } files = .ok o) ∧
      (¬∃ o, loadOptions faultIn { a with userId := none } files = .ok o) ∧
      (∀ o, loadOptions faultIn { a with userId := some "\x00" } files ≠ .ok o) ∧
      loadOptions faultIn { a with config := some "saved.json" }
        (fun _ => .ok o.toJson.toUTF8.data.toList) = .ok o := by
  intro text files faultIn a o
  obtain ⟨hload, hread, hmended, hrefused, htimeout, hreloaded⟩ := loadOptions_merges faultIn
  have hconfigured : Configured files (some "socks.json")
      (some ⟨10, 10, none, .v4Only, "\x00"⟩) := .read rfl (by decide +kernel)
  have hnul : ¬UserId.IsSendable (UserId.ofString "\x00") := by
    unfold UserId.IsSendable
    decide +kernel
  have hme : UserId.IsSendable (UserId.ofString "me") := by
    unfold UserId.IsSendable
    decide +kernel
  have hloaded : loadOptions faultIn a files = .ok o := (hload _ _ _).2 ⟨_, hconfigured, hme, rfl⟩
  refine ⟨hloaded, ?_, ?_, ?_, ?_⟩
  · exact (htimeout a files (some 3)).2 ⟨o, hloaded⟩
  · rw [hmended { a with userId := none } files _ hconfigured hnul]
    rintro ⟨userId, ⟨⟩, -⟩
  · exact fun o => hrefused _ files "\x00" o rfl hnul
  · exact hreloaded a files _ "saved.json" o hloaded rfl

end Probe

end ProxyDial
