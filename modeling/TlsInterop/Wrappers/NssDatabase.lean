import TlsInterop.Wrappers.NssSetup
import TlsInterop.Wrappers.Secrets

/-!
# The NSS database over a run of the wrapper

A run of the NSS wrapper answers one request after another, and its setups and
CLOSEs change the database on disk.  The flag `_nss_db_ready` is only set while the
database holds every nickname.  What a failed setup leaves lacks a nickname, and
therefore is rebuilt at the next use, unless the setup failed at the trust setting of
its last identity: then all nicknames are there, and the database is taken as it is.

## Main definitions

* `NssRequest`, `answerAll` — the requests of the wrapper, one after another.
* `NssWorld`, `WrapperStep` — the database and the setups so far, and what the calls
  of the wrapper do to them.
* `Complete`, `Unfinished`, `RebuiltAfterFailure` — the properties of the database.
* `Setup.TrustsLast` — the trust setting of the last identity does not fail.

## Main results

* `ensureNssDbReady_keeps`, `cleanupNssDb_keeps` — the two programs that change it.
* `nss_database_sound` — **where no setup fails at the trust setting of its last
  identity, the database is complete whenever it is used, and a failed setup is
  followed by a full rebuild.**
* `untrusted_database_used` — a run in which it is not.
-/

namespace TlsInterop.NSS

open Py Effects

/-! ### Requests -/

/-- A request of the wrapper. -/
inductive NssRequest
  | getMetadata
  | execute (request : OperationRequest)

/-- `GetMetadata`; the version it reports is left out. -/
def getMetadata (host : WrapperHost) : WrapperM Unit := stage (ensureNssDbReady host)

/-- One request.  What `GetMetadata` raises only goes to the caller. -/
def answerRequest (host : WrapperHost) : NssRequest → WrapperM Unit
  | .getMetadata => tryCatch (getMetadata host) fun _ => return ()
  | .execute request => do let _ ← executeOperation (backend host) request

/-- The requests, one after another. -/
def answerAll (host : WrapperHost) : List NssRequest → WrapperM Unit
  | [] => return ()
  | request :: rest => do
    answerRequest host request
    answerAll host rest

/-! ### The database on disk -/

/-- A run of the setup. -/
structure Setup where
  identities : List IdentityRow
  trace : List (Event SetupAns)
  result : Except PyExc Unit

namespace Setup

/-- The setup failed while it rebuilt the database. -/
def Failed (setup : Setup) : Prop := Rebuilds setup.trace ∧ ∃ e, setup.result = .error e

/-- The setup rebuilt the database with all identities. -/
def FullRebuild (setup : Setup) : Prop :=
  Rebuilds setup.trace ∧ setup.result = .ok () ∧
    ∀ row ∈ setup.identities, Installed row setup.trace

/-- The trust setting of the last identity does not fail. -/
def TrustsLast (setup : Setup) : Prop :=
  ∀ last, (setup.identities.map Prod.fst).getLast? = some last → ¬ TrustFails last setup.trace

end Setup

/-- The database and the setups so far, the last one first. -/
structure NssWorld where
  disk : NssDisk
  setups : List Setup := []

/-- The last rebuild of the database failed. -/
def Unfinished : List Setup → Prop
  | [] => False
  | setup :: earlier => setup.Failed ∨ ¬ Rebuilds setup.trace ∧ Unfinished earlier

/-- A setup that succeeds after one that failed is a full rebuild. -/
def RebuiltAfterFailure : List Setup → Prop
  | [] => True
  | setup :: earlier =>
    (Unfinished earlier → setup.result = .ok () → setup.FullRebuild) ∧ RebuiltAfterFailure earlier

/-- What a removal with errors ignored leaves of the database. -/
def PartOf (disk' disk : NssDisk) : Prop :=
  ∀ db', disk' = some db' → ∃ db, disk = some db ∧ db'.imported ⊆ db.imported ∧
    db'.trusted ⊆ db.trusted

/-- What a call on files does to the database; `present` are the PEM files there are. -/
def StageStep (present : String → Bool) (w : NssWorld) : Event StagingAns → NssWorld → Prop
  | ⟨.ensureNssDbIdentities path identities, ans⟩, w' => ∃ tr disk',
      (ensureNssDbIdentities path identities).Exec () tr ans () ∧
        Evolves ToolStep w.disk tr disk' ∧ w' = ⟨disk', ⟨identities, tr, ans⟩ :: w.setups⟩
  | ⟨.rmtree _, _⟩, w' => PartOf w'.disk w.disk ∧ w'.setups = w.setups
  | ⟨.isFile path, ans⟩, w' => (∀ found, ans = .ok found → found = present path) ∧ w' = w
  | ⟨.resolve _, ans⟩, w' => (∀ path, ans = .ok path → path ≠ "") ∧ w' = w
  | _, w' => w' = w

/-- What a call of the wrapper does to the database. -/
def WrapperStep (present : String → Bool) (w : NssWorld) (e : Event WrapperAns) (w' : NssWorld) :
    Prop :=
  match stageEvent e with
  | some e => StageStep present w e w'
  | none => w' = w

section

variable (host : WrapperHost) (present : String → Bool)

/-- Both PEM files of a prefix are there. -/
def bundlePresent (certPrefix : String) : Bool :=
  let p := if strip certPrefix = "" then defaultPrefix else strip certPrefix
  present (host.repo.root ++ "/certs/" ++ p ++ ".crt") &&
    present (host.repo.root ++ "/certs/" ++ p ++ ".key")

/-- The nicknames of `nss_interop_identity_import_rows`. -/
def expectedNicknames : List String :=
  (importPrefixes.filter (bundlePresent host present)).map nssNicknameForPrefix

/-- The database holds every nickname. -/
def Complete (disk : NssDisk) : Prop := ∀ n ∈ expectedNicknames host present, InDb disk n

/-- No two prefixes have one nickname. -/
theorem expectedNicknames_nodup : (expectedNicknames host present).Nodup := by
  have hall : (importPrefixes.map nssNicknameForPrefix).Nodup := by decide +kernel
  exact hall.sublist (List.filter_sublist.map _)

end

/-! ### Calls that leave the database alone -/

/-- A call on files that leaves the database alone. -/
def leavesDb : StagingCall → Bool
  | .ensureNssDbIdentities .. => false
  | .rmtree _ => false
  | _ => true

/-- Neither the database nor the flag is changed. -/
def leaves : Eff.Frame StagingAns Staging where
  holds st tr st' := st'.nssDbReady = st.nssDbReady ∧ ∀ e ∈ tr, leavesDb e.1 = true
  refl _ := ⟨rfl, fun _ he => absurd he List.not_mem_nil⟩
  trans h h' := ⟨h'.1.trans h.1, fun e he => (List.mem_append.mp he).elim (h.2 e) (h'.2 e)⟩

theorem leaves_single {q : StagingCall} (hq : leavesDb q = true) (st : Staging)
    (ans : StagingAns q) : leaves.holds st [⟨q, ans⟩] st := by
  refine ⟨rfl, fun e he => ?_⟩
  rw [List.mem_singleton.mp he]
  exact hq

theorem stageStep_of_leaves {present : String → Bool} {w w' : NssWorld} {e : Event StagingAns}
    (he : leavesDb e.1 = true) (h : StageStep present w e w') : w' = w := by
  obtain ⟨q, ans⟩ := e
  cases q with
  | getcwd => exact h
  | isFile path => exact h.2
  | osIsFile path => exact h
  | resolve path => exact h.2
  | writeFile path content => exact h
  | writeText path content => exact h
  | chmod path => exact h
  | remove path => exact h
  | uuidHex => exact h
  | getaddrinfo host port => exact h
  | ensureNssDbIdentities nssdb identities => cases he
  | rmtree path => cases he

theorem eq_of_leaves {present : String → Bool} {w w' : NssWorld} {st st' : Staging}
    {tr : List (Event StagingAns)} (h : leaves.holds st tr st')
    (hw : Evolves (StageStep present) w tr w') : w' = w :=
  hw.eq_of_idle fun e he _ _ hstep => stageStep_of_leaves (h.2 e he) hstep

theorem writeInlineCertKey_leaves (host : WrapperHost) (componentName : String)
    (cert key : List UInt8) :
    Eff.Within leaves (writeInlineCertKey host componentName cert key) :=
  .bind (.bind (.call (leaves_single rfl)) fun _ => .pure _) fun _ =>
    .bind (.invoke (leaves_single rfl)) fun _ => .bind (.invoke (leaves_single rfl)) fun _ =>
    .bind (.call (leaves_single rfl)) fun _ => .bind (.modifyState fun _ => leaves.refl _) fun _ =>
    .bind (.modifyState fun _ => leaves.refl _) fun _ => .pure _

/-- What is no setup and no removal of the database leaves it alone. -/
def leavesFiles : FileFrame where
  toFrame := leaves
  plain st ans hq := leaves_single (by cases ‹StagingCall› <;> first | rfl | cases hq) st ans
  inline := writeInlineCertKey_leaves

theorem validateConfigSupported_leaves (host : WrapperHost) (config : TlsConfig) (role : Role) :
    Eff.Within leaves (validateConfigSupported (backend host) config role) :=
  .bind (.ofExcept _) fun _ => .bind (.ite (.pure _) (.pure _)) fun _ => .bind (.ofExcept _) fun _ =>
    .ite (.pure _) (.throw _)

theorem cleanupEphemeralPemIfNeeded_leaves : Eff.Within leaves cleanupEphemeralPemIfNeeded :=
  .bind .getState fun _ => .bind (.modifyState fun _ => leaves.refl _) fun _ =>
    .forM fun _ _ => .call (leaves_single rfl)

/-! ### The identities to import -/

section

variable {host : WrapperHost} {present : String → Bool} {w w' : NssWorld} {st st' : Staging}
variable {tr : List (Event StagingAns)}

theorem invoke_isFile_spec {path : String} {found : Bool}
    (h : (Eff.invoke (.isFile path) id : StagingM Bool).Exec st tr (.ok found) st')
    (hw : Evolves (StageStep present) w tr w') : found = present path ∧ w' = w := by
  obtain ⟨ans, rfl, hans, -⟩ := Eff.exec_invoke.mp h
  have hstep : (∀ found, ans = .ok found → found = present path) ∧ w' = w :=
    evolves_singleton_iff.mp hw
  exact ⟨hstep.1 found hans, hstep.2⟩

theorem invoke_resolve_spec {path path' : String}
    (h : (Eff.invoke (.resolve path) id : StagingM String).Exec st tr (.ok path') st')
    (hw : Evolves (StageStep present) w tr w') : path' ≠ "" := by
  obtain ⟨ans, rfl, hans, -⟩ := Eff.exec_invoke.mp h
  have hstep : (∀ path, ans = .ok path → path ≠ "") ∧ w' = w := evolves_singleton_iff.mp hw
  exact hstep.1 path' hans

/-- The paths of a bundle are there when both its files are. -/
theorem catalogIdentityPemPathsForPrefix_spec {certPrefix : String} {paths : String × String}
    (h : (catalogIdentityPemPathsForPrefix host certPrefix).Exec st tr (.ok paths) st')
    (hw : Evolves (StageStep present) w tr w') :
    (paths.1 ≠ "" ∧ paths.2 ≠ "") ↔ bundlePresent host present certPrefix = true := by
  unfold catalogIdentityPemPathsForPrefix at h
  unfold bundlePresent
  dsimp only at h ⊢
  generalize (if strip certPrefix = "" then defaultPrefix else strip certPrefix) = p at h ⊢
  obtain ⟨cert, st₁, tr₁, tr', rfl, hcert, h⟩ := Eff.exec_bind_ok.mp h
  obtain ⟨w₁, hw₁, hw'⟩ := evolves_append_iff.mp hw
  -- the key is asked for only when the certificate is there
  obtain ⟨hpresent, rfl⟩ := invoke_isFile_spec hcert hw₁
  rw [← hpresent]
  cases cert with
  | false =>
    obtain ⟨-, hret, -⟩ := Eff.exec_pure.mp h
    rw [← Except.ok.inj hret]
    simp
  | true =>
    obtain ⟨key, st₂, tr₂, tr₃, rfl, hkey, h⟩ := Eff.exec_bind_ok.mp h
    obtain ⟨w₂, hw₂, hw₃⟩ := evolves_append_iff.mp hw'
    obtain ⟨hpresent', rfl⟩ := invoke_isFile_spec hkey hw₂
    rw [← hpresent']
    cases key with
    | false =>
      obtain ⟨-, hret, -⟩ := Eff.exec_pure.mp h
      rw [← Except.ok.inj hret]
      simp
    | true =>
      obtain ⟨certPath, st₃, tr₄, tr₅, rfl, hcertPath, h⟩ := Eff.exec_bind_ok.mp h
      obtain ⟨keyPath, st₄, tr₆, tr₇, rfl, hkeyPath, h⟩ := Eff.exec_bind_ok.mp h
      obtain ⟨w₃, hw₄, hw₅⟩ := evolves_append_iff.mp hw₃
      obtain ⟨w₄, hw₆, -⟩ := evolves_append_iff.mp hw₅
      obtain ⟨-, hret, -⟩ := Eff.exec_pure.mp h
      rw [← Except.ok.inj hret]
      -- a resolved path is not the empty text that stands for a missing file
      have hne := invoke_resolve_spec hcertPath hw₄
      have hne' := invoke_resolve_spec hkeyPath hw₆
      exact iff_of_true ⟨hne, hne'⟩ rfl

theorem importRows_spec {ps : List String} {rows : List IdentityRow}
    (h : (importRows host ps).Exec st tr (.ok rows) st')
    (hw : Evolves (StageStep present) w tr w') :
    rows.map Prod.fst = (ps.filter (bundlePresent host present)).map nssNicknameForPrefix := by
  induction ps generalizing st st' tr w w' rows with
  | nil =>
    obtain ⟨-, hrows, -⟩ := Eff.exec_pure.mp h
    rw [← Except.ok.inj hrows]
    rfl
  | cons p ps ih =>
    unfold importRows at h
    obtain ⟨paths, st₁, tr₁, tr', rfl, hpaths, h⟩ := Eff.exec_bind_ok.mp h
    obtain ⟨rest, st₂, tr₂, tr₃, rfl, hrest, h⟩ := Eff.exec_bind_ok.mp h
    obtain ⟨w₁, hw₁, hw'⟩ := evolves_append_iff.mp hw
    obtain ⟨w₂, hw₂, -⟩ := evolves_append_iff.mp hw'
    have hspec := catalogIdentityPemPathsForPrefix_spec hpaths hw₁
    have hrows := ih hrest hw₂
    obtain ⟨-, hret, -⟩ := Eff.exec_pure.mp h
    rw [← Except.ok.inj hret, List.filter_cons]
    by_cases hp : bundlePresent host present p = true
    · rw [if_pos (hspec.mpr hp), if_pos hp, List.map_cons, List.map_cons, hrows]
    · rw [if_neg fun hne => hp (hspec.mp hne), if_neg hp, hrows]

end

/-! ### What a run keeps -/

/-- While no setup has failed at the trust setting of its last identity, the flag is
set for a complete database only, and what a failed rebuild left lacks a nickname. -/
structure Sound (host : WrapperHost) (present : String → Bool) (st : Staging) (w : NssWorld) :
    Prop where
  ready : st.nssDbReady = true → Complete host present w.disk
  lacks : Unfinished w.setups → ∃ n ∈ expectedNicknames host present, ¬ InDb w.disk n
  rebuilt : RebuiltAfterFailure w.setups

/-- The invariant of a run. -/
def Inv (host : WrapperHost) (present : String → Bool) (st : Staging) (w : NssWorld) : Prop :=
  (∀ setup ∈ w.setups, setup.TrustsLast) → Sound host present st w

/-- The database a process is started with. -/
def Usable (host : WrapperHost) (present : String → Bool) (w : NssWorld) : Prop :=
  Complete host present w.disk ∧ ¬ Unfinished w.setups

/-- `selfserv` or `tstclnt` is launched. -/
def IsLaunch (e : Event WrapperAns) : Prop := ∃ cmd cwd env, e.1 = .popen cmd cwd env

/-- A process is started with a usable database. -/
def LaunchOk (host : WrapperHost) (present : String → Bool) (w : NssWorld) (e : Event WrapperAns) :
    Prop :=
  IsLaunch e → (∀ setup ∈ w.setups, setup.TrustsLast) → Usable host present w

/-- The programs on files that keep the invariant. -/
abbrev keepsDb (host : WrapperHost) (present : String → Bool) : Eff.Frame StagingAns Staging :=
  Eff.keeping (StageStep present) (Inv host present) fun _ _ => True

section

variable {host : WrapperHost} {present : String → Bool} {w w' : NssWorld} {st st' : Staging}

theorem Sound.usable (h : Sound host present st w) (hready : st.nssDbReady = true) :
    Usable host present w := by
  refine ⟨h.ready hready, fun hunfinished => ?_⟩
  obtain ⟨n, hn, hnot⟩ := h.lacks hunfinished
  exact hnot (h.ready hready n hn)

/-- Only the flag of the program matters. -/
theorem Inv.congr (h : Inv host present st w) (hst : st'.nssDbReady = st.nssDbReady) :
    Inv host present st' w := by
  intro htrusts
  obtain ⟨hready, hlacks, hrebuilt⟩ := h htrusts
  exact ⟨fun hflag => hready (hst.symm.trans hflag), hlacks, hrebuilt⟩

theorem keepsDb_of_inv {tr : List (Event StagingAns)}
    (h : ∀ w w', Evolves (StageStep present) w tr w' → Inv host present st w →
      Inv host present st' w') : (keepsDb host present).holds st tr st' :=
  fun w w' hw hinv => ⟨h w w' hw hinv, fun _ _ _ _ _ _ _ => trivial⟩

theorem keepsDb_of_leaves {tr : List (Event StagingAns)} (h : leaves.holds st tr st') :
    (keepsDb host present).holds st tr st' := by
  refine keepsDb_of_inv fun w w' hw hinv => ?_
  rw [eq_of_leaves h hw]
  exact hinv.congr h.1

theorem within_keepsDb {α : Type} {m : StagingM α} (h : Eff.Within leaves m) :
    Eff.Within (keepsDb host present) m := fun _ _ _ _ hexec => keepsDb_of_leaves (h hexec)

/-! ### The setup and the removal -/

theorem exists_getLast?_nickname {identities : List IdentityRow} (hne : identities ≠ []) :
    ∃ last, (identities.map Prod.fst).getLast? = some last := by
  have hmap : identities.map Prod.fst ≠ [] := fun h => hne (List.map_eq_nil_iff.mp h)
  exact ⟨_, List.getLast?_eq_some_getLast hmap⟩

/-- A setup of the expected identities keeps the invariant, and a complete database
is there when it succeeds. -/
theorem setup_keeps (setup : Setup) {disk' : NssDisk} {dbAbs : String}
    (hrows : setup.identities.map Prod.fst = expectedNicknames host present)
    (h : (ensureNssDbIdentities dbAbs setup.identities).Exec () setup.trace setup.result ())
    (hdisk : Evolves ToolStep w.disk setup.trace disk') (hinv : Inv host present st w) :
    Inv host present { st with nssDbReady := setup.result matches .ok _ }
      ⟨disk', setup :: w.setups⟩ := by
  intro htrusts
  obtain ⟨-, hlacks, hrebuilt⟩ := hinv fun s hs => htrusts s (List.mem_cons_of_mem _ hs)
  have hlast : setup.TrustsLast := htrusts setup List.mem_cons_self
  have hin : ∀ n ∈ expectedNicknames host present, ∃ row ∈ setup.identities, row.1 = n := by
    intro n hn
    rw [← hrows] at hn
    exact List.mem_map.mp hn
  have hnotFailed : setup.result = .ok () → ¬ setup.Failed := by
    rintro hok ⟨-, e, herr⟩
    cases hok.symm.trans herr
  cases ensureNssDbIdentities_spec h hdisk with
  | refused hno hr hsame =>
    obtain ⟨e, hr⟩ := hr
    -- the database is as it was
    have hunfinished : Unfinished (setup :: w.setups) → Unfinished w.setups := by
      rintro (⟨hre, -⟩ | ⟨-, h⟩)
      · exact absurd hre hno
      · exact h
    refine ⟨fun hflag => ?_, fun hu => ?_, fun _ hok => ?_, hrebuilt⟩
    · rw [hr] at hflag
      cases hflag
    · rw [hsame]
      exact hlacks (hunfinished hu)
    · cases hr.symm.trans hok
  | found hno hr hsame hall =>
    have hcomplete : Complete host present disk' := by
      intro n hn
      obtain ⟨row, hrow, rfl⟩ := hin n hn
      rw [hsame]
      exact hall row hrow
    -- a database that lacks a nickname is not found complete
    have hfinished : ¬ Unfinished w.setups := by
      intro hu
      obtain ⟨n, hn, hnot⟩ := hlacks hu
      rw [← hsame] at hnot
      exact hnot (hcomplete n hn)
    refine ⟨fun _ => hcomplete, ?_, fun hu => absurd hu hfinished, hrebuilt⟩
    rintro (hfailed | ⟨-, hu⟩)
    · exact absurd hfailed (hnotFailed hr)
    · exact absurd hu hfinished
  -- a full rebuild installs every identity
  | rebuilt hre hr hall =>
    refine ⟨fun _ n hn => ?_, ?_, fun _ _ => ⟨hre, hr, fun row hrow => (hall row hrow).2⟩, hrebuilt⟩
    · obtain ⟨row, hrow, rfl⟩ := hin n hn
      exact (hall row hrow).1
    · rintro (hfailed | ⟨hno, -⟩)
      · exact absurd hfailed (hnotFailed hr)
      · exact absurd hre hno
  | failed hre hr hlacking =>
    obtain ⟨e, hr⟩ := hr
    -- the last nickname is missing, unless it failed at its trust setting
    obtain ⟨last, hget⟩ := exists_getLast?_nickname (ne_nil_of_rebuilds h hre)
    have hmem : last ∈ expectedNicknames host present := by
      rw [← hrows]
      exact List.mem_of_getLast? hget
    have hnodup : (setup.identities.map Prod.fst).Nodup := by
      rw [hrows]
      exact expectedNicknames_nodup host present
    refine ⟨fun hflag => ?_, fun _ => ⟨last, hmem, ?_⟩, fun _ hok => ?_, hrebuilt⟩
    · rw [hr] at hflag
      cases hflag
    · exact hlacking last hnodup hget (hlast last hget)
    · cases hr.symm.trans hok

/-- `_ensure_nss_db_ready` keeps the invariant, and sets the flag when it succeeds. -/
theorem exec_ensureNssDbReady {tr : List (Event StagingAns)} {r : Except PyExc Unit}
    (h : (ensureNssDbReady host).Exec st tr r st') :
    (keepsDb host present).holds st tr st' ∧ (r = .ok () → st'.nssDbReady = true) := by
  unfold ensureNssDbReady at h
  rw [Eff.exec_getState_bind] at h
  cases hready : st.nssDbReady with
  | true =>
    simp only [hready, if_true] at h
    obtain ⟨rfl, -, rfl⟩ := Eff.exec_pure.mp h
    exact ⟨(keepsDb host present).refl st, fun _ => hready⟩
  | false =>
    simp only [hready, Bool.false_eq_true, if_false] at h
    have hrowsLeave : Eff.Within leaves (importRows host importPrefixes) :=
      importRows_within (F := leavesFiles) host importPrefixes
    rcases Eff.exec_bind.mp h with ⟨e, rfl, hrows⟩ | ⟨rows, st₁, tr₁, tr', rfl, hrows, hrest⟩
    · exact ⟨keepsDb_of_leaves (hrowsLeave hrows), nofun⟩
    have hfirst := hrowsLeave hrows
    have hflag : st₁.nssDbReady = false := hfirst.1.trans hready
    -- what the answer of the setup makes of the database
    have hsetup : ∀ {ans : Except PyExc Unit} {w w' : NssWorld},
        Evolves (StageStep present) w (tr₁ ++ [⟨.ensureNssDbIdentities host.nssdb rows, ans⟩]) w' →
        Inv host present st w →
        Inv host present { st₁ with nssDbReady := ans matches .ok _ } w' := by
      intro ans w w' hw hinv
      obtain ⟨w₁, hw₁, hw₂⟩ := evolves_append_iff.mp hw
      have hnicknames := importRows_spec hrows hw₁
      obtain rfl := eq_of_leaves hfirst hw₁
      obtain ⟨tr₀, disk', hexec, hdisk, rfl⟩ := evolves_singleton_iff.mp hw₂
      have hkeeps := setup_keeps ⟨rows, tr₀, ans⟩ hnicknames hexec hdisk hinv
      exact hkeeps.congr rfl
    rcases Eff.exec_bind.mp hrest with ⟨e, rfl, hcall⟩ | ⟨⟨⟩, st₂, tr₂, tr₃, rfl, hcall, hset⟩
    · obtain ⟨ans, rfl, hans, rfl⟩ := Eff.exec_invoke.mp hcall
      obtain rfl : ans = .error e := hans
      refine ⟨keepsDb_of_inv fun w w' hw hinv => ?_, nofun⟩
      exact (hsetup hw hinv).congr hflag
    · obtain ⟨ans, rfl, hans, rfl⟩ := Eff.exec_invoke.mp hcall
      obtain rfl : ans = .ok () := hans
      obtain ⟨rfl, -, rfl⟩ := Eff.exec_modifyState.mp hset
      refine ⟨keepsDb_of_inv fun w w' hw hinv => ?_, fun _ => rfl⟩
      rw [List.append_nil] at hw
      exact hsetup hw hinv

theorem ensureNssDbReady_keeps : Eff.Within (keepsDb host present) (ensureNssDbReady host) :=
  fun _ _ _ _ h => (exec_ensureNssDbReady h).1

/-- A removal takes nicknames away, and the flag with them. -/
theorem cleanupNssDb_keeps : Eff.Within (keepsDb host present) (cleanupNssDb host) := by
  intro st tr r st' h
  obtain ⟨r₁, r₂, st₁, tr₁, tr₂, rfl, -, hremove, hflag⟩ := Eff.exec_finallyDo.mp h
  obtain ⟨ans, rfl, -, rfl⟩ := Eff.exec_invoke.mp hremove
  obtain ⟨rfl, -, rfl⟩ := Eff.exec_modifyState.mp hflag
  refine keepsDb_of_inv fun w w' hw hinv htrusts => ?_
  obtain ⟨hpart, hsame⟩ : PartOf w'.disk w.disk ∧ w'.setups = w.setups :=
    evolves_singleton_iff.mp hw
  rw [hsame] at htrusts
  obtain ⟨-, hlacks, hrebuilt⟩ := hinv htrusts
  refine ⟨nofun, fun hu => ?_, hsame ▸ hrebuilt⟩
  obtain ⟨n, hn, hnot⟩ := hlacks (hsame ▸ hu)
  refine ⟨n, hn, ?_⟩
  rintro ⟨db', hdb', hmem⟩
  obtain ⟨db, hdb, hsub, -⟩ := hpart db' hdb'
  exact hnot ⟨db, hdb, hsub hmem⟩

/-! ### The hooks -/

/-- What follows the setup leaves the flag as the setup set it. -/
theorem exec_afterSetup {α : Type} {f : Unit → StagingM α} (hf : ∀ u, Eff.Within leaves (f u))
    {tr : List (Event StagingAns)} {r : Except PyExc α}
    (h : (ensureNssDbReady host >>= f).Exec st tr r st') :
    (keepsDb host present).holds st tr st' ∧ ∀ a, r = .ok a → st'.nssDbReady = true := by
  rcases Eff.exec_bind.mp h with ⟨e, rfl, hsetup⟩ | ⟨⟨⟩, st₁, tr₁, tr₂, rfl, hsetup, hrest⟩
  · exact ⟨(exec_ensureNssDbReady hsetup).1, nofun⟩
  · have hsetup' : (keepsDb host present).holds st tr₁ st₁ ∧
        ((.ok () : Except PyExc Unit) = .ok () → st₁.nssDbReady = true) :=
      exec_ensureNssDbReady hsetup
    have hleaves := hf () hrest
    refine ⟨(keepsDb host present).trans hsetup'.1 (keepsDb_of_leaves hleaves), fun _ _ => ?_⟩
    exact hleaves.1.trans (hsetup'.2 rfl)

theorem exec_startServer {config : TlsConfig} {tr : List (Event StagingAns)}
    {r : Except PyExc Launch} (h : (startServer host config).Exec st tr r st') :
    (keepsDb host present).holds st tr st' ∧ ∀ launch, r = .ok launch → st'.nssDbReady = true :=
  exec_afterSetup (fun _ => .bind (.invoke (leaves_single rfl)) fun _ =>
    .bind (nssServerNicknameForConfig_within (F := leavesFiles) ..) fun _ => .pure _) h

theorem exec_startClient {config : TlsConfig} {tr : List (Event StagingAns)}
    {r : Except PyExc Launch} (h : (startClient host config).Exec st tr r st') :
    (keepsDb host present).holds st tr st' ∧ ∀ launch, r = .ok launch → st'.nssDbReady = true :=
  exec_afterSetup (fun _ => .bind (nssTstclntHostAndExtraArgv_within (F := leavesFiles) ..) fun _ =>
    .bind (.invoke (leaves_single rfl)) fun _ => .pure _) h

end

/-! ### The servicer -/

theorem isLaunch_of_stage (e : Event StagingAns) :
    ¬ IsLaunch (Prog.embedEvent WrapperAns WrapperCall.stage e) := by
  rintro ⟨cmd, cwd, env, h⟩
  cases h

section

variable (host : WrapperHost) (present : String → Bool)

/-- The runs of the wrapper that keep the invariant and launch with a usable database. -/
def keeps : LookFrame where
  toFrame := Eff.keeping (WrapperStep present) (fun s w => Inv host present s.staging w)
    (LaunchOk host present)
  look := by
    intro q s ans hq
    refine Eff.keeping_single fun w w' hstep hinv => ?_
    have hnone : stageEvent ⟨q, ans⟩ = none := by cases q <;> first | rfl | cases hq
    unfold WrapperStep at hstep
    rw [hnone] at hstep
    obtain rfl : w' = w := hstep
    refine ⟨hinv, ?_⟩
    rintro ⟨cmd, cwd, env, hpopen⟩
    obtain rfl : q = .popen cmd cwd env := hpopen
    cases hq
  remember s root serverCmd clientCmd serverOutput clientOutput := by
    intro w w' hw hinv
    obtain rfl := evolves_nil_iff.mp hw
    exact ⟨hinv, allowed_nil⟩

variable {host : WrapperHost} {present : String → Bool}

theorem keeps_single {q : WrapperCall} (hq : ∀ ans, stageEvent ⟨q, ans⟩ = none)
    (hpopen : ∀ ans, ¬ IsLaunch ⟨q, ans⟩) (s : WrapperState) (ans : WrapperAns q) :
    (keeps host present).holds s [⟨q, ans⟩] s := by
  refine Eff.keeping_single fun w w' hstep hinv => ?_
  unfold WrapperStep at hstep
  rw [hq ans] at hstep
  obtain rfl : w' = w := hstep
  exact ⟨hinv, fun hlaunch => absurd hlaunch (hpopen ans)⟩

/-- A change of the process fields. -/
theorem keeps_fields {f : WrapperState → WrapperState} (hf : ∀ s, (f s).staging = s.staging)
    (s : WrapperState) : (keeps host present).holds s [] (f s) := by
  intro w w' hw hinv
  obtain rfl := evolves_nil_iff.mp hw
  have hsame : Inv host present (f s).staging w' := by
    rw [hf s]
    exact hinv
  exact ⟨hsame, allowed_nil⟩

/-- A program on files that keeps the invariant, in the wrapper. -/
theorem stage_holds {s : WrapperState} {st : Staging} {tr : List (Event StagingAns)}
    (h : (keepsDb host present).holds s.staging tr st) :
    (keeps host present).holds s (tr.map (Prog.embedEvent WrapperAns WrapperCall.stage))
      { s with staging := st } := by
  intro w w' hw hinv
  have hw₀ : Evolves (StageStep present) w tr w' :=
    Evolves.unmap (f := Prog.embedEvent WrapperAns WrapperCall.stage) (fun _ _ _ hstep => hstep) hw
  refine ⟨(h w w' hw₀ hinv).1, ?_⟩
  intro tr₁ e tr₂ w₁ htr _ _ hlaunch
  have hmem : e ∈ tr.map (Prog.embedEvent WrapperAns WrapperCall.stage) := by
    rw [htr]
    exact List.mem_append_right _ List.mem_cons_self
  obtain ⟨e₀, -, rfl⟩ := List.mem_map.mp hmem
  exact absurd hlaunch (isLaunch_of_stage e₀)

theorem stage_keeps {α : Type} {m : StagingM α} (hm : Eff.Within (keepsDb host present) m) :
    Looks (keeps host present) (stage m) := by
  intro s tr r s' h
  obtain ⟨tr₀, st, rfl, h₀, rfl⟩ := Eff.exec_zoom.mp h
  exact stage_holds (hm h₀)

/-- A hook that sets the flag has its command launched with a usable database. -/
theorem startCli_keeps {prepare : StagingM Launch}
    (hprepare : ∀ {st tr r st'}, prepare.Exec st tr r st' →
      (keepsDb host present).holds st tr st' ∧ ∀ launch, r = .ok launch → st'.nssDbReady = true) :
    Looks (keeps host present) (startCli prepare) := by
  intro s tr r s' h
  unfold startCli at h
  rcases Eff.exec_bind.mp h with ⟨e, -, hstage⟩ | ⟨launch, s₁, tr₁, tr', rfl, hstage, hrest⟩
  · obtain ⟨tr₀, st, rfl, h₀, rfl⟩ := Eff.exec_zoom.mp hstage
    exact stage_holds (hprepare h₀).1
  obtain ⟨tr₀, st, rfl, h₀, rfl⟩ := Eff.exec_zoom.mp hstage
  obtain ⟨hkeeps, hready⟩ := hprepare h₀
  have hlaunch : ∀ ans, (keeps host present).holds { s with staging := st }
      [⟨.popen launch.cmd launch.cwd launch.env, ans⟩] { s with staging := st } := by
    intro ans
    refine Eff.keeping_single fun w w' hstep hinv => ?_
    obtain rfl : w' = w := hstep
    exact ⟨hinv, fun _ htrusts => (hinv htrusts).usable (hready launch rfl)⟩
  refine (keeps host present).trans (stage_holds hkeeps) ?_
  rcases Eff.exec_bind.mp hrest with ⟨e, -, hpopen⟩ | ⟨proc, s₂, tr₂, tr₃, rfl, hpopen, hret⟩
  · obtain ⟨ans, rfl, -, rfl⟩ := Eff.exec_invoke.mp hpopen
    exact hlaunch ans
  · obtain ⟨ans, rfl, -, rfl⟩ := Eff.exec_invoke.mp hpopen
    obtain ⟨rfl, -, rfl⟩ := Eff.exec_pure.mp hret
    exact hlaunch ans

theorem terminateProcessHard_keeps (proc : Option CliProc) :
    Looks (keeps host present) (terminateProcessHard proc) := by
  have hcall : ∀ {q : WrapperCall}, (∀ ans, stageEvent ⟨q, ans⟩ = none) →
      (∀ ans, ¬ IsLaunch ⟨q, ans⟩) → Looks (keeps host present) (Eff.call q) :=
    fun hq hpopen => .call (keeps_single hq hpopen)
  have hpoll : ∀ p ans, ¬ IsLaunch ⟨.poll p, ans⟩ := fun _ _ ⟨_, _, _, h⟩ => nomatch h
  have hterminate : ∀ p ans, ¬ IsLaunch ⟨.terminate p, ans⟩ := fun _ _ ⟨_, _, _, h⟩ => nomatch h
  have hkill : ∀ p ans, ¬ IsLaunch ⟨.kill p, ans⟩ := fun _ _ ⟨_, _, _, h⟩ => nomatch h
  have hwait : ∀ p t ans, ¬ IsLaunch ⟨.wait p t, ans⟩ := fun _ _ _ ⟨_, _, _, h⟩ => nomatch h
  cases proc with
  | none => exact .pure ()
  | some p =>
    exact .bind (hcall (fun _ => rfl) (hpoll p)) fun _ => .ite (.pure ()) <|
      .bind (hcall (fun _ => rfl) (hterminate p)) fun _ => .ite (.pure ()) <|
      .bind (hcall (fun _ => rfl) (hwait p 3)) fun _ => .ite (.pure ()) <|
      .bind (hcall (fun _ => rfl) (hkill p)) fun _ => .ite (.pure ()) <|
      .bind (hcall (fun _ => rfl) (hwait p 2)) fun _ => .pure ()

theorem executeOperation_keeps (request : OperationRequest) :
    Looks (keeps host present) (executeOperation (backend host) request) := by
  have hprocs : ∀ (s : WrapperState) (server client : Option CliProc), (keeps host present).holds s
      [] { s with serverProc := server, clientProc := client } :=
    fun s server client =>
      keeps_fields (f := fun s => { s with serverProc := server, clientProc := client })
        (fun _ => rfl) s
  refine executeOperation_looks (fun _ => ?_) fun _ => ?_
  · exact handleEstablish_looks terminateProcessHard_keeps hprocs
      (stage_keeps (within_keepsDb (validateConfigSupported_leaves ..)))
      (fun _ => startCli_keeps exec_startServer) fun _ => startCli_keeps exec_startClient
  · exact handleClose_looks terminateProcessHard_keeps hprocs
      (stage_keeps (within_keepsDb cleanupEphemeralPemIfNeeded_leaves))
      (stage_keeps cleanupNssDb_keeps)

theorem answerRequest_keeps (request : NssRequest) :
    Looks (keeps host present) (answerRequest host request) := by
  cases request with
  | getMetadata => exact .tryCatch (stage_keeps ensureNssDbReady_keeps) fun _ => .pure _
  | execute request => exact .bind (executeOperation_keeps request) fun _ => .pure _

theorem answerAll_keeps (requests : List NssRequest) :
    Looks (keeps host present) (answerAll host requests) := by
  induction requests with
  | nil => exact .pure _
  | cons request rest ih => exact .bind (answerRequest_keeps request) fun _ => ih

/-- The setups only become more. -/
theorem setups_subset {w w' : NssWorld} {tr : List (Event WrapperAns)}
    (h : Evolves (WrapperStep present) w tr w') : w.setups ⊆ w'.setups := by
  induction h with
  | nil w => exact List.Subset.refl _
  | @cons w w₁ w' e tr hstep _ ih =>
    refine List.Subset.trans ?_ ih
    unfold WrapperStep at hstep
    cases hstage : stageEvent e with
    | none =>
      rw [hstage] at hstep
      obtain rfl : w₁ = w := hstep
      exact List.Subset.refl _
    | some e₀ =>
      rw [hstage] at hstep
      obtain ⟨q, ans⟩ := e₀
      cases hq : leavesDb q with
      | true =>
        obtain rfl := stageStep_of_leaves hq hstep
        exact List.Subset.refl _
      | false =>
        cases q with
        | ensureNssDbIdentities nssdb identities =>
          obtain ⟨tr₀, disk', -, -, rfl⟩ := hstep
          exact List.subset_cons_self _ _
        | rmtree path =>
          have hsame : w₁.setups = w.setups := hstep.2
          rw [hsame]
          exact List.Subset.refl _
        | _ => cases hq

/-- **In every run in which no setup fails at the trust setting of its last identity**,
the flag is set and a process is launched with a database that holds every nickname
and is not left over from a failed rebuild, and the first setup that succeeds after
one that failed is a full rebuild.  A database is taken for complete when it lists the last
nickname, which a rebuild imports before it sets its trust. -/
theorem nss_database_sound {requests : List NssRequest} {disk : NssDisk} {s' : WrapperState}
    {w' : NssWorld} {tr : List (Event WrapperAns)} {r : Except PyExc Unit}
    (h : (answerAll host requests).Exec {} tr r s')
    (hw : Evolves (WrapperStep present) { disk } tr w')
    (htrusts : ∀ setup ∈ w'.setups, setup.TrustsLast) :
    (s'.staging.nssDbReady = true → Usable host present w') ∧
      (∀ tr₁ e tr₂ w₁, tr = tr₁ ++ e :: tr₂ → IsLaunch e →
        Evolves (WrapperStep present) { disk } tr₁ w₁ →
        Evolves (WrapperStep present) w₁ (e :: tr₂) w' → Usable host present w₁) ∧
      RebuiltAfterFailure w'.setups := by
  have hinit : Inv host present {} { disk } := fun _ => ⟨nofun, nofun, trivial⟩
  obtain ⟨hinv, hlaunches⟩ := answerAll_keeps requests h _ _ hw hinit
  have hsound := hinv htrusts
  refine ⟨hsound.usable, fun tr₁ e tr₂ w₁ htr hlaunch hbefore hafter => ?_, hsound.rebuilt⟩
  exact hlaunches tr₁ e tr₂ w₁ htr hbefore hafter hlaunch fun setup hsetup =>
    htrusts setup (setups_subset hafter hsetup)

end

/-! ### Runs -/

/-- The row of the RSA identity, whose PEM files are there. -/
def rsaRow : IdentityRow :=
  ("interop_rsa_default", "/r/certs/rsa_default.crt", "/r/certs/rsa_default.key")

def rsaPresent (path : String) : Bool := path == rsaRow.2.1 || path == rsaRow.2.2

/-- A wrapper with its database in `/r/db`. -/
def rsaHost : WrapperHost where
  repo := ⟨"/r", [], fun _ h => absurd h List.not_mem_nil, fun _ => none⟩
  nssdb := "/r/db"

/-- The directory may be there; the listing, the new database and the trust setting end
with the given codes, all else succeeds. -/
def setupEnv (there : Bool) (listCode newCode trustCode : ℤ) : Prog.Env SetupAns
  | _, .resolveCliTool name => some name
  | _, .openLock _ => .ok ()
  | _, .isDir _ => there
  | _, .rmtree _ => .ok ()
  | _, .makedirs _ => .ok ()
  | _, .isFile _ => true
  | _, .remove _ => .ok ()
  | _, .run (.listNickname ..) => .ok { returncode := listCode }
  | _, .run (.newDb ..) => .ok { returncode := newCode }
  | _, .run (.setTrust ..) => .ok { returncode := trustCode }
  | _, .run _ => .ok { returncode := 0 }

/-- The tools are found, and the nickname is asked for. -/
def lookTrace (listCode : ℤ) : List (Event SetupAns) :=
  [⟨.resolveCliTool "certutil", some "certutil"⟩, ⟨.resolveCliTool "pk12util", some "pk12util"⟩,
    ⟨.resolveCliTool "openssl", some "openssl"⟩, ⟨.openLock "/r/db.lock", .ok ()⟩,
    ⟨.run (.listNickname "certutil" "sql:/r/db" "interop_rsa_default"),
      .ok { returncode := listCode }⟩]

/-- The nickname is not reported, and the directory is made anew. -/
def emptyTrace (there : Bool) (newCode : ℤ) : List (Event SetupAns) :=
  lookTrace 255 ++ ⟨.isDir "/r/db", there⟩ ::
    (if there then [⟨.rmtree "/r/db", .ok ()⟩] else []) ++
    [⟨.makedirs "/r/db", .ok ()⟩,
      ⟨.run (.newDb "certutil" "sql:/r/db"), .ok { returncode := newCode }⟩]

/-- The database is made anew, with the identity. -/
def rebuildTrace (there : Bool) (trustCode : ℤ) : List (Event SetupAns) :=
  emptyTrace there 0 ++ [⟨.isFile "/r/certs/rsa_default.crt", true⟩,
    ⟨.isFile "/r/certs/rsa_default.key", true⟩,
    ⟨.run (.exportIdentity "openssl" "/r/certs/rsa_default.crt" "/r/certs/rsa_default.key"
      "/r/db/interop_rsa_default.p12" "interop_rsa_default"), .ok { returncode := 0 }⟩,
    ⟨.run (.importIdentity "pk12util" "sql:/r/db" "/r/db/interop_rsa_default.p12"),
      .ok { returncode := 0 }⟩,
    ⟨.run (.setTrust "certutil" "sql:/r/db" "interop_rsa_default"),
      .ok { returncode := trustCode }⟩,
    ⟨.isFile "/r/db/interop_rsa_default.p12", true⟩,
    ⟨.remove "/r/db/interop_rsa_default.p12", .ok ()⟩]

/-- The complaint about the trust setting. -/
def trustError : PyExc :=
  ⟨.runtimeError,
    "NSS setup failed: certutil -M -d sql:/r/db -n interop_rsa_default -t CT,u,u | "⟩

/-- The complaint about the new database. -/
def newDbError : PyExc :=
  ⟨.runtimeError, "NSS setup failed: certutil -N -d sql:/r/db --empty-password | "⟩

/-- The setup that finds the nickname, and the one that fails at the trust setting. -/
def foundSetup : Setup := ⟨[rsaRow], lookTrace 0, .ok ()⟩
def untrustedSetup : Setup := ⟨[rsaRow], rebuildTrace false 1, .error trustError⟩

/-- The setup that fails at the new database, and the one that then makes it from nothing. -/
def brokenSetup : Setup := ⟨[rsaRow], emptyTrace false 1, .error newDbError⟩
def rebuiltSetup : Setup := ⟨[rsaRow], rebuildTrace true 0, .ok ()⟩

theorem foundSetup_exec : (ensureNssDbIdentities "/r/db" foundSetup.identities).Exec ()
    foundSetup.trace foundSetup.result () := Eff.exec_run (setupEnv true 0 0 0) _ () []

theorem untrustedSetup_exec : (ensureNssDbIdentities "/r/db" untrustedSetup.identities).Exec ()
    untrustedSetup.trace untrustedSetup.result () := Eff.exec_run (setupEnv false 255 0 1) _ () []

theorem brokenSetup_exec : (ensureNssDbIdentities "/r/db" brokenSetup.identities).Exec ()
    brokenSetup.trace brokenSetup.result () := Eff.exec_run (setupEnv false 255 1 0) _ () []

theorem rebuiltSetup_exec : (ensureNssDbIdentities "/r/db" rebuiltSetup.identities).Exec ()
    rebuiltSetup.trace rebuiltSetup.result () := Eff.exec_run (setupEnv true 255 0 0) _ () []

/-- The database without the trust setting, and with it. -/
def untrustedDb : NssDb := { imported := {"interop_rsa_default"} }
def trustedDb : NssDb :=
  { imported := {"interop_rsa_default"}, trusted := {"interop_rsa_default"} }

theorem untrustedSetup_evolves : Evolves ToolStep none untrustedSetup.trace (some untrustedDb) := by
  simp [untrustedSetup, rebuildTrace, emptyTrace, lookTrace, evolves_cons_iff, evolves_nil_iff,
    ToolStep, DbTool.Does, succeeded, untrustedDb, Dict.set]

/-- The untrusted database is found. -/
theorem foundSetup_evolves :
    Evolves ToolStep (some untrustedDb) foundSetup.trace (some untrustedDb) := by
  simp [foundSetup, lookTrace, evolves_cons_iff, evolves_nil_iff, ToolStep, DbTool.Does, succeeded,
    untrustedDb, InDb]

/-- An empty directory is left. -/
theorem brokenSetup_evolves : Evolves ToolStep none brokenSetup.trace (some {}) := by
  simp [brokenSetup, emptyTrace, lookTrace, evolves_cons_iff, evolves_nil_iff, ToolStep, succeeded]

theorem rebuiltSetup_evolves :
    Evolves ToolStep (some {}) rebuiltSetup.trace (some trustedDb) := by
  simp [rebuiltSetup, rebuildTrace, emptyTrace, lookTrace, evolves_cons_iff, evolves_nil_iff,
    ToolStep, DbTool.Does, succeeded, trustedDb, Dict.set]

/-- The files of the identities are looked up. -/
def lookups : List (Event StagingAns) :=
  [⟨.isFile "/r/certs/ecdsa_p521.crt", .ok false⟩, ⟨.isFile "/r/certs/ecdsa_p384.crt", .ok false⟩,
    ⟨.isFile "/r/certs/ecdsa_p256.crt", .ok false⟩, ⟨.isFile "/r/certs/dsa_default.crt", .ok false⟩,
    ⟨.isFile "/r/certs/rsa_pss_pure.crt", .ok false⟩, ⟨.isFile "/r/certs/rsa_default.crt", .ok true⟩,
    ⟨.isFile "/r/certs/rsa_default.key", .ok true⟩,
    ⟨.resolve "/r/certs/rsa_default.crt", .ok "/r/certs/rsa_default.crt"⟩,
    ⟨.resolve "/r/certs/rsa_default.key", .ok "/r/certs/rsa_default.key"⟩]

/-- The calls of a `GetMetadata` with the given setup. -/
def metadataTrace (setup : Setup) : List (Event WrapperAns) :=
  (lookups ++ [(⟨.ensureNssDbIdentities "/r/db" setup.identities, setup.result⟩ :
    Event StagingAns)]).map (Prog.embedEvent WrapperAns WrapperCall.stage)

/-- The first setup ends in the given result, the second succeeds. -/
def metadataEnv (first : Except PyExc Unit) : Prog.Env WrapperAns
  | _, .stage (.isFile path) => .ok (rsaPresent path)
  | past, .stage (.ensureNssDbIdentities ..) => if past.length < 10 then first else .ok ()
  | past, q => quietEnv past q

theorem metadataTrace_evolves {setup : Setup} {disk disk' : NssDisk} {setups : List Setup}
    (h : (ensureNssDbIdentities "/r/db" setup.identities).Exec () setup.trace setup.result ())
    (hdisk : Evolves ToolStep disk setup.trace disk') :
    Evolves (WrapperStep rsaPresent) ⟨disk, setups⟩ (metadataTrace setup)
      ⟨disk', setup :: setups⟩ := by
  have hlookups : Evolves (StageStep rsaPresent) ⟨disk, setups⟩ lookups ⟨disk, setups⟩ := by
    simp [lookups, evolves_cons_iff, evolves_nil_iff, StageStep, rsaPresent, rsaRow]
  refine Evolves.map (fun _ _ _ hstep => hstep) (evolves_append_iff.mpr ⟨_, hlookups, ?_⟩)
  exact evolves_singleton_iff.mpr ⟨setup.trace, disk', h, hdisk, rfl⟩

/-- A wrapper with that database in the repository as it is shipped. -/
def launchHost : WrapperHost where
  repo := shippedRepo "/r" fun _ => none
  nssdb := "/r/db"

/-- A `GetMetadata`, and then an ESTABLISH of a server. -/
def launchRequests : List NssRequest :=
  [.getMetadata,
    .execute { type := .establish, role := .server, config := { version := "1.3", port := 4433 } }]

/-- A server is started, and watched. -/
def launchTrace : List (Event WrapperAns) :=
  [⟨.stage .getcwd, .ok "/repo"⟩,
    ⟨.popen ["stdbuf", "-o0", "selfserv", "-d", "sql:/r/db", "-n", "interop_rsa_default", "-p",
      "4433", "-V", "tls1.3:tls1.3", "-v", "-v"] "/repo" none, .ok 0⟩,
    ⟨.poll 0, (none : Option ℤ)⟩, ⟨.tcpRounds 30, (1 : ℕ)⟩, ⟨.poll 0, (none : Option ℤ)⟩,
    ⟨.tcpAttempt "127.0.0.1" 4433, .ok none⟩, ⟨.readStdout 0 (1 / 5) 65536, ([] : List UInt8)⟩,
    ⟨.poll 0, (none : Option ℤ)⟩]

theorem launchTrace_evolves (w : NssWorld) : Evolves (WrapperStep rsaPresent) w launchTrace w := by
  simp [launchTrace, evolves_cons_iff, evolves_nil_iff, WrapperStep, stageEvent, StageStep]

theorem launchRequests_exec : ∃ s', (answerAll launchHost launchRequests).Exec {}
    (metadataTrace brokenSetup ++ metadataTrace rebuiltSetup ++ launchTrace) (.ok ()) s' ∧
      s'.staging.nssDbReady = true := by
  have htrace : (((answerAll launchHost launchRequests).prog {}).exec
      (metadataEnv (.error newDbError)) []).2
        = metadataTrace brokenSetup ++ metadataTrace rebuiltSetup ++ launchTrace := by
    decide +kernel
  have hok : (((answerAll launchHost launchRequests).prog {}).exec
      (metadataEnv (.error newDbError)) []).1.1 = .ok () := by
    decide +kernel
  have hready : (((answerAll launchHost launchRequests).prog {}).exec
      (metadataEnv (.error newDbError)) []).1.2.staging.nssDbReady = true := by
    decide +kernel
  have hexec := Eff.exec_run (metadataEnv (.error newDbError)) (answerAll launchHost launchRequests)
    {} []
  rw [htrace, hok] at hexec
  exact ⟨_, hexec, hready⟩

theorem trustsLast_of_launch : ∀ setup ∈ [rebuiltSetup, brokenSetup], setup.TrustsLast := by
  have htrusts : ∀ {setup : Setup}, (∀ certutil dbSpec nickname ans,
      (⟨.run (.setTrust certutil dbSpec nickname), ans⟩ : Event SetupAns) ∈ setup.trace →
        succeeded ans = true) → setup.TrustsLast := by
    rintro setup hall last - ⟨certutil, dbSpec, ans, hmem, hans⟩
    rw [hall certutil dbSpec last ans hmem] at hans
    cases hans
  refine List.forall_mem_cons.mpr ⟨htrusts ?_, List.forall_mem_singleton.mpr (htrusts ?_)⟩
  · intro certutil dbSpec nickname ans hmem
    simp [rebuiltSetup, rebuildTrace, emptyTrace, lookTrace] at hmem
    obtain ⟨-, rfl⟩ := hmem
    rfl
  · intro certutil dbSpec nickname ans hmem
    simp [brokenSetup, emptyTrace, lookTrace] at hmem

/-- A setup fails, the next use makes the database from nothing, and `selfserv` is started with
it. -/
theorem trusted_database_sound :
    ∃ tr s' w', (answerAll launchHost launchRequests).Exec {} tr (.ok ()) s' ∧
      Evolves (WrapperStep rsaPresent) { disk := none } tr w' ∧
      brokenSetup.Failed ∧ w'.setups = [rebuiltSetup, brokenSetup] ∧ rebuiltSetup.FullRebuild ∧
      s'.staging.nssDbReady = true ∧ Usable launchHost rsaPresent w' ∧
      ∃ tr₁ e tr₂ w₁, tr = tr₁ ++ e :: tr₂ ∧ IsLaunch e ∧
        Evolves (WrapperStep rsaPresent) { disk := none } tr₁ w₁ ∧
        Usable launchHost rsaPresent w₁ := by
  obtain ⟨s', hrun, hready⟩ := launchRequests_exec
  have hsetups : Evolves (WrapperStep rsaPresent) { disk := none }
      (metadataTrace brokenSetup ++ metadataTrace rebuiltSetup)
      ⟨some trustedDb, [rebuiltSetup, brokenSetup]⟩ :=
    evolves_append_iff.mpr ⟨_, metadataTrace_evolves brokenSetup_exec brokenSetup_evolves,
      metadataTrace_evolves rebuiltSetup_exec rebuiltSetup_evolves⟩
  have hworld := evolves_append_iff.mpr ⟨_, hsetups, launchTrace_evolves _⟩
  obtain ⟨husable, hlaunch, hrebuilt⟩ := nss_database_sound hrun hworld trustsLast_of_launch
  have hfailed : brokenSetup.Failed :=
    ⟨⟨"certutil", "sql:/r/db", .ok { returncode := 1 }, by simp [brokenSetup, emptyTrace]⟩,
      newDbError, rfl⟩
  refine ⟨_, s', _, hrun, hworld, hfailed, rfl, hrebuilt.1 (.inl hfailed) rfl, hready,
    husable hready, ?_⟩
  -- the server is started behind the working directory
  have hcwd : Evolves (WrapperStep rsaPresent) ⟨some trustedDb, [rebuiltSetup, brokenSetup]⟩
      [⟨.stage .getcwd, .ok "/repo"⟩] ⟨some trustedDb, [rebuiltSetup, brokenSetup]⟩ :=
    evolves_singleton_iff.mpr rfl
  have hbefore := evolves_append_iff.mpr ⟨_, hsetups, hcwd⟩
  have hafter : Evolves (WrapperStep rsaPresent) ⟨some trustedDb, [rebuiltSetup, brokenSetup]⟩
      launchTrace.tail ⟨some trustedDb, [rebuiltSetup, brokenSetup]⟩ := by
    simp [launchTrace, evolves_cons_iff, evolves_nil_iff, WrapperStep, stageEvent]
  have hsplit : metadataTrace brokenSetup ++ metadataTrace rebuiltSetup ++ launchTrace
      = (metadataTrace brokenSetup ++ metadataTrace rebuiltSetup ++
        [⟨.stage .getcwd, .ok "/repo"⟩]) ++ launchTrace.tail := by
    rw [List.append_assoc]
    rfl
  exact ⟨_, _, _, _, hsplit, ⟨_, _, _, rfl⟩, hbefore,
    hlaunch _ _ _ _ hsplit ⟨_, _, _, rfl⟩ hbefore hafter⟩

/-- The trust setting fails, and the next use takes the database as it is. -/
theorem untrusted_database_used :
    ∃ tr s' w', (answerAll rsaHost [.getMetadata, .getMetadata]).Exec {} tr (.ok ()) s' ∧
      Evolves (WrapperStep rsaPresent) { disk := none } tr w' ∧
      s'.staging.nssDbReady = true ∧ Unfinished w'.setups ∧ ¬ RebuiltAfterFailure w'.setups := by
  have hrun : (answerAll rsaHost [.getMetadata, .getMetadata]).Exec {}
      (metadataTrace untrustedSetup ++ metadataTrace foundSetup) (.ok ())
      { staging := { nssDbReady := true } } :=
    Eff.exec_run (metadataEnv (.error trustError)) (answerAll rsaHost [.getMetadata, .getMetadata])
      {} []
  have hworld : Evolves (WrapperStep rsaPresent) { disk := none }
      (metadataTrace untrustedSetup ++ metadataTrace foundSetup)
      ⟨some untrustedDb, [foundSetup, untrustedSetup]⟩ :=
    evolves_append_iff.mpr ⟨_, metadataTrace_evolves untrustedSetup_exec untrustedSetup_evolves,
      metadataTrace_evolves foundSetup_exec foundSetup_evolves⟩
  have hrebuilds : Rebuilds untrustedSetup.trace :=
    ⟨"certutil", "sql:/r/db", .ok { returncode := 0 }, by
      simp [untrustedSetup, rebuildTrace, emptyTrace]⟩
  have hno : ¬ Rebuilds foundSetup.trace := by
    rintro ⟨certutil, dbSpec, ans, hmem⟩
    simp [foundSetup, lookTrace] at hmem
  have hfailed : untrustedSetup.Failed := ⟨hrebuilds, trustError, rfl⟩
  refine ⟨_, _, _, hrun, hworld, rfl, .inr ⟨hno, .inl hfailed⟩, fun hrebuilt => ?_⟩
  exact hno (hrebuilt.1 (.inl hfailed) rfl).1

end TlsInterop.NSS
