import TlsInterop.Effects.World
import TlsInterop.Wrappers.Servicer

/-!
# The setup of the NSS database

The model of `_ensure_nss_db_identities` of `wrappers/nss/nss_db.py`, down to the
tools it runs, and of what these do to the database on disk.  A tool that reports
success has done what it is for, one that reports a failure has done nothing,
and the files of the directory can be created and removed.

A setup takes the database as it finds it when every nickname is reported there;
otherwise it is rebuilt from nothing, identity after identity.

## Main definitions

* `DbTool`, `SetupCall`, `SetupAns` — the tools, the calls and how they are answered.
* `ensureNssDbIdentities` — the setup.
* `NssDb`, `NssDisk`, `ToolStep` — the database, and what the calls do to it.
* `TrustFails`, `Installed` — the trust setting of an identity failed; all its tools succeeded.

## Main results

* `importPkcs12Identity_spec`, `importAll_spec` — one identity, and all of them.
* `ensureNssDbIdentities_spec` — the setup finds the database, rebuilds it, or fails.
-/

namespace TlsInterop.NSS

open Py Effects

/-! ### The tools -/

/-- A command of the setup. -/
inductive DbTool
  | listNickname (certutil dbSpec nickname : String)
  | newDb (certutil dbSpec : String)
  | exportIdentity (openssl certPem keyPem p12Path nickname : String)
  | importIdentity (pk12util dbSpec p12Path : String)
  | setTrust (certutil dbSpec nickname : String)
  deriving DecidableEq, Repr

/-- The command line. -/
def DbTool.argv : DbTool → List String
  | listNickname certutil dbSpec nickname => [certutil, "-L", "-d", dbSpec, "-n", nickname]
  | newDb certutil dbSpec => [certutil, "-N", "-d", dbSpec, "--empty-password"]
  | exportIdentity openssl certPem keyPem p12Path nickname =>
    [openssl, "pkcs12", "-export", "-in", certPem, "-inkey", keyPem, "-out", p12Path, "-passout",
      "pass:", "-nodes", "-name", nickname]
  | importIdentity pk12util dbSpec p12Path =>
    [pk12util, "-d", dbSpec, "-i", p12Path, "-W", "", "-K", ""]
  | setTrust certutil dbSpec nickname =>
    [certutil, "-M", "-d", dbSpec, "-n", nickname, "-t", "CT,u,u"]

/-- What `subprocess.run` returns. -/
structure ToolResult where
  returncode : ℤ
  stdout : String := ""
  stderr : String := ""
  deriving DecidableEq, Repr

/-- The calls of the setup. -/
inductive SetupCall
  /-- `resolve_cli_tool`. -/
  | resolveCliTool (name : String)
  /-- Create the directory of the lock file, open it and lock it. -/
  | openLock (path : String)
  /-- `os.path.isdir`. -/
  | isDir (path : String)
  /-- `shutil.rmtree`. -/
  | rmtree (path : String)
  /-- `os.makedirs`. -/
  | makedirs (path : String)
  /-- `os.path.isfile`. -/
  | isFile (path : String)
  /-- `os.remove`. -/
  | remove (path : String)
  /-- `subprocess.run`. -/
  | run (tool : DbTool)

/-- How each call is answered. -/
abbrev SetupAns : SetupCall → Type
  | .resolveCliTool _ => Option String
  | .openLock _ => Except PyExc Unit
  | .isDir _ => Bool
  | .rmtree _ => Except PyExc Unit
  | .makedirs _ => Except PyExc Unit
  | .isFile _ => Bool
  | .remove _ => Except PyExc Unit
  | .run _ => Except PyExc ToolResult

/-- A program of the setup. -/
abbrev SetupM (α : Type) : Type := Eff SetupAns PyExc Unit α

/-! ### The setup -/

/-- `_require_cli_tool`. -/
def requireCliTool (name : String) : SetupM String := do
  match ← Eff.call (SetupCall.resolveCliTool name) with
  | some path => return path
  | none => throw ⟨.runtimeError, "NSS setup: required tool not found: " ++ name⟩

/-- `_run_checked`. -/
def runChecked (tool : DbTool) : SetupM Unit := do
  let r ← Eff.invoke (SetupCall.run tool) id
  if r.returncode ≠ 0 then
    throw ⟨.runtimeError, "NSS setup failed: " ++ String.intercalate " " tool.argv ++ " | " ++
      strip (if r.stderr ≠ "" then r.stderr else r.stdout)⟩

/-- `_nss_db_has_nickname`. -/
def nssDbHasNickname (certutil dbSpec nickname : String) : SetupM Bool := do
  let r ← Eff.invoke (SetupCall.run (.listNickname certutil dbSpec nickname)) id
  return r.returncode == 0

/-- `all(_nss_db_has_nickname(..) for ..)`. -/
def hasAllNicknames (certutil dbSpec : String) : List String → SetupM Bool
  | [] => return true
  | nickname :: rest => do
    if !(← nssDbHasNickname certutil dbSpec nickname) then return false
    hasAllNicknames certutil dbSpec rest

/-- `os.path.isfile(cert_pem) and os.path.isfile(key_pem)`. -/
def hasPemFiles (certPem keyPem : String) : SetupM Bool := do
  if !(← Eff.call (SetupCall.isFile certPem)) then return false
  Eff.call (SetupCall.isFile keyPem)

/-- A row of identities: the nickname and the two PEM files. -/
abbrev IdentityRow := String × String × String

/-- `_import_pkcs12_identity`. -/
def importPkcs12Identity (openssl pk12util certutil dbAbs dbSpec : String) (row : IdentityRow) :
    SetupM Unit := do
  if !(← hasPemFiles row.2.1 row.2.2) then
    throw ⟨.runtimeError, "NSS setup: missing PEM for " ++ row.1 ++ ": " ++ reprStr row.2.1 ++ " / "
      ++ reprStr row.2.2⟩
  let p12Path := joinPath dbAbs (row.1 ++ ".p12")
  Eff.finallyDo
    (do
      runChecked (.exportIdentity openssl row.2.1 row.2.2 p12Path row.1)
      runChecked (.importIdentity pk12util dbSpec p12Path)
      runChecked (.setTrust certutil dbSpec row.1))
    (do
      if ← Eff.call (SetupCall.isFile p12Path) then Eff.invoke (SetupCall.remove p12Path) id)

/-- The identities, one after another. -/
def importAll (openssl pk12util certutil dbAbs dbSpec : String) : List IdentityRow → SetupM Unit
  | [] => return ()
  | row :: rows => do
    importPkcs12Identity openssl pk12util certutil dbAbs dbSpec row
    importAll openssl pk12util certutil dbAbs dbSpec rows

/-- A directory with nothing in it. -/
def emptyDirectory (dbAbs : String) : SetupM Unit := do
  if ← Eff.call (SetupCall.isDir dbAbs) then Eff.invoke (SetupCall.rmtree dbAbs) id
  Eff.invoke (SetupCall.makedirs dbAbs) id

/-- The database, from nothing. -/
def rebuildNssDb (openssl pk12util certutil dbAbs dbSpec : String) (identities : List IdentityRow) :
    SetupM Unit := do
  emptyDirectory dbAbs
  runChecked (.newDb certutil dbSpec)
  importAll openssl pk12util certutil dbAbs dbSpec identities

/-- `_ensure_nss_db_identities`, for an absolute path. -/
def ensureNssDbIdentities (dbAbs : String) (identities : List IdentityRow) : SetupM Unit := do
  if identities = [] then
    throw ⟨.runtimeError, "NSS setup: no identity bundles to import"⟩
  let certutil ← requireCliTool "certutil"
  let pk12util ← requireCliTool "pk12util"
  let openssl ← requireCliTool "openssl"
  let dbSpec := "sql:" ++ dbAbs
  Eff.invoke (SetupCall.openLock (dbAbs ++ ".lock")) id
  if ← hasAllNicknames certutil dbSpec (identities.map Prod.fst) then return ()
  rebuildNssDb openssl pk12util certutil dbAbs dbSpec identities

/-! ### The database -/

/-- A database: the nicknames imported, the ones whose trust is set, and the
PKCS#12 files in its directory with the nickname each was exported under. -/
structure NssDb where
  imported : Finset String := ∅
  trusted : Finset String := ∅
  bundles : Dict String String := []
  deriving DecidableEq

/-- The directory of the database; none when it is absent. -/
abbrev NssDisk := Option NssDb

/-- The nickname is in the database. -/
def InDb (disk : NssDisk) (nickname : String) : Prop := ∃ db, disk = some db ∧ nickname ∈ db.imported

/-- `subprocess.run` returned, with the code of a success. -/
def succeeded : Except PyExc ToolResult → Bool
  | .ok r => r.returncode == 0
  | .error _ => false

/-- What a tool that reports success has done. -/
def DbTool.Does : DbTool → NssDisk → NssDisk → Prop
  | listNickname _ _ nickname, disk, disk' => disk' = disk ∧ InDb disk nickname
  | newDb .., disk, disk' => disk' = disk
  | exportIdentity _ _ _ p12Path nickname, disk, disk' => ∃ db, disk = some db ∧
      disk' = some { db with bundles := db.bundles.set p12Path nickname }
  | importIdentity _ _ p12Path, disk, disk' => ∃ db nickname, disk = some db ∧
      db.bundles.get? p12Path = some nickname ∧
      disk' = some { db with imported := insert nickname db.imported }
  | setTrust _ _ nickname, disk, disk' => ∃ db, disk = some db ∧ nickname ∈ db.imported ∧
      disk' = some { db with trusted := insert nickname db.trusted }

/-- What a call of the setup does to the directory, given its answer. -/
def ToolStep (disk : NssDisk) : Event SetupAns → NssDisk → Prop
  | ⟨.run tool, ans⟩, disk' =>
    if succeeded ans = true then tool.Does disk disk' else disk' = disk
  | ⟨.isDir _, ans⟩, disk' => ans = disk.isSome ∧ disk' = disk
  | ⟨.rmtree _, ans⟩, disk' => ans = .ok () ∧ disk' = none
  | ⟨.makedirs _, ans⟩, disk' => ans = .ok () ∧ disk' = some (disk.getD {})
  | ⟨.remove path, ans⟩, disk' => ans = .ok () ∧
      disk' = disk.map fun db => { db with bundles := db.bundles.filter fun e => e.1 ≠ path }
  | _, disk' => disk' = disk

/-- The trust setting of a nickname failed. -/
def TrustFails (nickname : String) (tr : List (Event SetupAns)) : Prop :=
  ∃ certutil dbSpec ans, (⟨.run (.setTrust certutil dbSpec nickname), ans⟩ : Event SetupAns) ∈ tr ∧
    succeeded ans = false

/-- A tool ran with success. -/
def Ran (tool : DbTool) (tr : List (Event SetupAns)) : Prop :=
  ∃ ans, (⟨.run tool, ans⟩ : Event SetupAns) ∈ tr ∧ succeeded ans = true

/-- An identity was exported, imported and given its trust. -/
def Installed (row : IdentityRow) (tr : List (Event SetupAns)) : Prop :=
  ∃ openssl pk12util certutil dbSpec p12Path,
    Ran (.exportIdentity openssl row.2.1 row.2.2 p12Path row.1) tr ∧
      Ran (.importIdentity pk12util dbSpec p12Path) tr ∧ Ran (.setTrust certutil dbSpec row.1) tr

/-- The setup began to rebuild the database. -/
def Rebuilds (tr : List (Event SetupAns)) : Prop :=
  ∃ certutil dbSpec ans, (⟨.run (.newDb certutil dbSpec), ans⟩ : Event SetupAns) ∈ tr

section

variable {tr tr' : List (Event SetupAns)} {row : IdentityRow} {nickname : String} {tool : DbTool}

theorem TrustFails.mono (h : TrustFails nickname tr) (hsub : ∀ e ∈ tr, e ∈ tr') :
    TrustFails nickname tr' := by
  obtain ⟨certutil, dbSpec, ans, hmem, hans⟩ := h
  exact ⟨certutil, dbSpec, ans, hsub _ hmem, hans⟩

theorem Ran.mono (h : Ran tool tr) (hsub : ∀ e ∈ tr, e ∈ tr') : Ran tool tr' := by
  obtain ⟨ans, hmem, hans⟩ := h
  exact ⟨ans, hsub _ hmem, hans⟩

theorem Installed.mono (h : Installed row tr) (hsub : ∀ e ∈ tr, e ∈ tr') : Installed row tr' := by
  obtain ⟨openssl, pk12util, certutil, dbSpec, p12Path, hexport, himport, htrust⟩ := h
  exact ⟨openssl, pk12util, certutil, dbSpec, p12Path, hexport.mono hsub, himport.mono hsub,
    htrust.mono hsub⟩

theorem mem_append_left_of (tr' : List (Event SetupAns)) : ∀ e ∈ tr, e ∈ tr ++ tr' :=
  fun _ he => List.mem_append_left _ he

theorem mem_append_right_of (tr : List (Event SetupAns)) : ∀ e ∈ tr', e ∈ tr ++ tr' :=
  fun _ he => List.mem_append_right _ he

end

/-! ### One tool -/

/-- A checked tool ran with success, or the setup fails there. -/
theorem exec_runChecked {tool : DbTool} {u u' : Unit} {tr : List (Event SetupAns)}
    {r : Except PyExc Unit} (h : (runChecked tool).Exec u tr r u') :
    ∃ ans, tr = [⟨.run tool, ans⟩] ∧
      ((r = .ok () ∧ succeeded ans = true) ∨ (∃ e, r = .error e) ∧ succeeded ans = false) := by
  unfold runChecked at h
  rcases Eff.exec_bind.mp h with ⟨e, rfl, hraise⟩ | ⟨result, u₁, tr₁, tr₂, rfl, hrun, hrest⟩
  · obtain ⟨ans, rfl, hans, -⟩ := Eff.exec_invoke.mp hraise
    refine ⟨ans, rfl, .inr ⟨⟨e, rfl⟩, ?_⟩⟩
    rw [show ans = .error e from hans]
    rfl
  · obtain ⟨ans, rfl, hans, -⟩ := Eff.exec_invoke.mp hrun
    obtain rfl : ans = .ok result := hans
    by_cases hcode : result.returncode ≠ 0
    · rw [if_pos hcode] at hrest
      obtain ⟨rfl, rfl, -⟩ := Eff.exec_throw.mp hrest
      refine ⟨.ok result, rfl, .inr ⟨⟨_, rfl⟩, ?_⟩⟩
      simpa [succeeded] using hcode
    · rw [if_neg hcode] at hrest
      obtain ⟨rfl, rfl, -⟩ := Eff.exec_pure.mp hrest
      refine ⟨.ok result, rfl, .inl ⟨rfl, ?_⟩⟩
      simpa [succeeded] using hcode

/-- What a checked tool has done to the database. -/
theorem runChecked_spec {tool : DbTool} {u u' : Unit} {tr : List (Event SetupAns)}
    {r : Except PyExc Unit} {disk disk' : NssDisk} (h : (runChecked tool).Exec u tr r u')
    (hdisk : Evolves ToolStep disk tr disk') :
    (r = .ok () ∧ tool.Does disk disk' ∧ Ran tool tr) ∨
      (∃ e, r = .error e) ∧ disk' = disk ∧
        ∃ ans, (⟨.run tool, ans⟩ : Event SetupAns) ∈ tr ∧ succeeded ans = false := by
  obtain ⟨ans, rfl, hans⟩ := exec_runChecked h
  have hstep : if succeeded ans = true then tool.Does disk disk' else disk' = disk :=
    evolves_singleton_iff.mp hdisk
  rcases hans with ⟨hr, hok⟩ | ⟨hr, hbad⟩
  · rw [if_pos hok] at hstep
    exact .inl ⟨hr, hstep, ans, List.mem_singleton_self _, hok⟩
  · rw [hbad, if_neg Bool.false_ne_true] at hstep
    exact .inr ⟨hr, hstep, ans, List.mem_singleton_self _, hbad⟩

/-! ### Looking at the database -/

/-- The calls that change nothing. -/
def SetupCall.isInspection : SetupCall → Bool
  | resolveCliTool _ => true
  | openLock _ => true
  | isDir _ => true
  | isFile _ => true
  | run (.listNickname ..) => true
  | _ => false

/-- Only calls that change nothing are made. -/
abbrev inspects : Eff.Frame SetupAns Unit := Eff.callsOnly SetupCall.isInspection

theorem toolStep_of_inspection {disk disk' : NssDisk} {e : Event SetupAns}
    (he : e.1.isInspection = true) (h : ToolStep disk e disk') : disk' = disk := by
  obtain ⟨q, ans⟩ := e
  cases q with
  | resolveCliTool _ => exact h
  | openLock _ => exact h
  | isDir _ => exact h.2
  | isFile _ => exact h
  | rmtree _ => cases he
  | makedirs _ => cases he
  | remove _ => cases he
  | run tool =>
    cases tool with
    | listNickname certutil dbSpec nickname =>
      replace h : if succeeded ans = true then disk' = disk ∧ InDb disk nickname
          else disk' = disk := h
      split at h
      · exact h.1
      · exact h
    | newDb => cases he
    | exportIdentity => cases he
    | importIdentity => cases he
    | setTrust => cases he

section

variable {disk disk' : NssDisk} {tr : List (Event SetupAns)} {u u' : Unit}

theorem eq_of_inspects (h : inspects.holds u tr u') (hdisk : Evolves ToolStep disk tr disk') :
    disk' = disk :=
  hdisk.eq_of_idle fun e he _ _ hstep => toolStep_of_inspection (h e he) hstep

theorem not_rebuilds_of_inspects (h : inspects.holds u tr u') : ¬ Rebuilds tr := by
  rintro ⟨certutil, dbSpec, ans, hmem⟩
  have hcall := h _ hmem
  cases hcall

end

theorem hasPemFiles_inspects (certPem keyPem : String) :
    Eff.Within inspects (hasPemFiles certPem keyPem) :=
  .bind (.call (Eff.callsOnly_single rfl)) fun _ => .ite (.pure _) (.call (Eff.callsOnly_single rfl))

theorem requireCliTool_inspects (name : String) : Eff.Within inspects (requireCliTool name) := by
  refine .bind (.call (Eff.callsOnly_single rfl)) fun path => ?_
  cases path with
  | some path => exact .pure path
  | none => exact .throw _

theorem nssDbHasNickname_inspects (certutil dbSpec nickname : String) :
    Eff.Within inspects (nssDbHasNickname certutil dbSpec nickname) :=
  .bind (.invoke (Eff.callsOnly_single rfl)) fun _ => .pure _

theorem hasAllNicknames_inspects (certutil dbSpec : String) (nicknames : List String) :
    Eff.Within inspects (hasAllNicknames certutil dbSpec nicknames) := by
  induction nicknames with
  | nil => exact .pure true
  | cons nickname rest ih =>
    exact .bind (nssDbHasNickname_inspects ..) fun _ => .ite (.pure _) ih

/-- A nickname that is reported is in the database. -/
theorem nssDbHasNickname_spec {certutil dbSpec nickname : String} {u u' : Unit}
    {tr : List (Event SetupAns)} {disk disk' : NssDisk}
    (h : (nssDbHasNickname certutil dbSpec nickname).Exec u tr (.ok true) u')
    (hdisk : Evolves ToolStep disk tr disk') : InDb disk nickname := by
  unfold nssDbHasNickname at h
  obtain ⟨result, u₁, tr₁, tr₂, rfl, hrun, hret⟩ := Eff.exec_bind_ok.mp h
  obtain ⟨ans, rfl, hans, -⟩ := Eff.exec_invoke.mp hrun
  obtain ⟨rfl, hcode, -⟩ := Eff.exec_pure.mp hret
  have hok : succeeded ans = true := by
    rw [show ans = .ok result from hans]
    exact Except.ok.inj hcode
  rw [List.append_nil, evolves_singleton_iff] at hdisk
  replace hdisk : if succeeded ans = true then disk' = disk ∧ InDb disk nickname
      else disk' = disk := hdisk
  rw [if_pos hok] at hdisk
  exact hdisk.2

theorem hasAllNicknames_spec {certutil dbSpec : String} {nicknames : List String} {u u' : Unit}
    {tr : List (Event SetupAns)} {disk disk' : NssDisk}
    (h : (hasAllNicknames certutil dbSpec nicknames).Exec u tr (.ok true) u')
    (hdisk : Evolves ToolStep disk tr disk') : ∀ n ∈ nicknames, InDb disk n := by
  induction nicknames generalizing u tr disk with
  | nil => exact fun n hn => absurd hn List.not_mem_nil
  | cons nickname rest ih =>
    unfold hasAllNicknames at h
    obtain ⟨found, u₁, tr₁, tr₂, rfl, hfirst, hrest⟩ := Eff.exec_bind_ok.mp h
    obtain ⟨disk₁, hdisk₁, hdisk₂⟩ := evolves_append_iff.mp hdisk
    cases found with
    | false =>
      obtain ⟨-, hret, -⟩ := Eff.exec_pure.mp hrest
      cases hret
    | true =>
      have hhead := nssDbHasNickname_spec hfirst hdisk₁
      obtain rfl := eq_of_inspects (nssDbHasNickname_inspects _ _ _ hfirst) hdisk₁
      intro n hn
      rcases List.mem_cons.mp hn with rfl | hn
      · exact hhead
      · exact ih hrest hdisk₂ n hn

/-! ### One identity -/

/-- The removal of a PKCS#12 file leaves the nicknames. -/
theorem removeBundle_spec {p12Path : String} {u u' : Unit} {tr : List (Event SetupAns)}
    {r : Except PyExc Unit} {db : NssDb} {disk' : NssDisk}
    (h : (do
      if ← Eff.call (SetupCall.isFile p12Path) then
        Eff.invoke (SetupCall.remove p12Path) id : SetupM Unit).Exec u tr r u')
    (hdisk : Evolves ToolStep (some db) tr disk') :
    r = .ok () ∧ ∃ db', disk' = some db' ∧ db'.imported = db.imported ∧ db'.trusted = db.trusted := by
  obtain ⟨found, u₁, tr₁, tr₂, rfl, hlook, hrest⟩ := (Eff.Total.call _).exec_bind h
  obtain ⟨disk₁, hdisk₁, hdisk₂⟩ := evolves_append_iff.mp hdisk
  obtain rfl := eq_of_inspects (Eff.Within.call (Eff.callsOnly_single rfl) hlook) hdisk₁
  cases found with
  | false =>
    obtain ⟨rfl, rfl, -⟩ := Eff.exec_pure.mp hrest
    exact ⟨rfl, db, evolves_nil_iff.mp hdisk₂, rfl, rfl⟩
  | true =>
    obtain ⟨ans, rfl, hans, -⟩ := Eff.exec_invoke.mp hrest
    have hstep : ans = .ok () ∧ disk' = (some db).map fun db =>
        { db with bundles := db.bundles.filter fun e => e.1 ≠ p12Path } :=
      evolves_singleton_iff.mp hdisk₂
    exact ⟨hans.symm.trans hstep.1, _, hstep.2, rfl, rfl⟩

/-- The three tools of an identity: all succeed, or one fails and the ones after it
are not run. -/
theorem installTools_spec {openssl pk12util certutil dbSpec p12Path : String} {row : IdentityRow}
    {u u' : Unit} {tr : List (Event SetupAns)} {r : Except PyExc Unit} {db : NssDb}
    {disk' : NssDisk}
    (h : (do
      runChecked (.exportIdentity openssl row.2.1 row.2.2 p12Path row.1)
      runChecked (.importIdentity pk12util dbSpec p12Path)
      runChecked (.setTrust certutil dbSpec row.1) : SetupM Unit).Exec u tr r u')
    (hdisk : Evolves ToolStep (some db) tr disk') :
    ∃ db', disk' = some db' ∧
      ((r = .ok () ∧ db'.imported = insert row.1 db.imported ∧
          db'.trusted = insert row.1 db.trusted ∧ Installed row tr) ∨
        (∃ e, r = .error e) ∧ (db'.imported = db.imported ∨
          db'.imported = insert row.1 db.imported ∧ TrustFails row.1 tr)) := by
  rcases Eff.exec_bind.mp h with ⟨e, rfl, hexport⟩ | ⟨⟨⟩, u₁, tr₁, tr', rfl, hexport, hrest⟩
  · rcases runChecked_spec hexport hdisk with ⟨hr, -⟩ | ⟨-, rfl, -⟩
    · cases hr
    · exact ⟨db, rfl, .inr ⟨⟨e, rfl⟩, .inl rfl⟩⟩
  obtain ⟨disk₁, hdisk₁, hdisk'⟩ := evolves_append_iff.mp hdisk
  rcases runChecked_spec hexport hdisk₁ with ⟨-, hdoes, hran₁⟩ | ⟨⟨e, hr⟩, -⟩
  swap
  · cases hr
  obtain ⟨db₁, hdb₁, rfl⟩ := hdoes
  obtain rfl := Option.some.inj hdb₁
  rcases Eff.exec_bind.mp hrest with ⟨e, rfl, himport⟩ | ⟨⟨⟩, u₂, tr₂, tr₃, rfl, himport, htrust⟩
  · rcases runChecked_spec himport hdisk' with ⟨hr, -⟩ | ⟨-, rfl, -⟩
    · cases hr
    · exact ⟨_, rfl, .inr ⟨⟨e, rfl⟩, .inl rfl⟩⟩
  obtain ⟨disk₂, hdisk₂, hdisk₃⟩ := evolves_append_iff.mp hdisk'
  rcases runChecked_spec himport hdisk₂ with ⟨-, hdoes, hran₂⟩ | ⟨⟨e, hr⟩, -⟩
  swap
  · cases hr
  -- the file that is imported is the one just exported
  obtain ⟨db₂, nickname, hdb₂, hbundle, rfl⟩ := hdoes
  obtain rfl := Option.some.inj hdb₂
  rw [Dict.get?_set, if_pos rfl] at hbundle
  obtain rfl := Option.some.inj hbundle
  rcases runChecked_spec htrust hdisk₃ with ⟨rfl, hdoes, hran₃⟩ | ⟨hr, rfl, ans, hans, hbad⟩
  · obtain ⟨db₃, hdb₃, -, rfl⟩ := hdoes
    obtain rfl := Option.some.inj hdb₃
    refine ⟨_, rfl, .inl ⟨rfl, rfl, rfl, openssl, pk12util, certutil, dbSpec, p12Path,
      hran₁.mono (mem_append_left_of _), ?_, ?_⟩⟩
    · exact (hran₂.mono (mem_append_left_of _)).mono (mem_append_right_of _)
    · exact (hran₃.mono (mem_append_right_of _)).mono (mem_append_right_of _)
  · refine ⟨_, rfl, .inr ⟨hr, .inr ⟨rfl, ?_⟩⟩⟩
    exact ⟨certutil, dbSpec, ans, List.mem_append_right _ (List.mem_append_right _ hans), hbad⟩

/-- **One identity** is installed, or the setup fails: before its import, or at
its trust setting. -/
theorem importPkcs12Identity_spec {openssl pk12util certutil dbAbs dbSpec : String}
    {row : IdentityRow} {u u' : Unit} {tr : List (Event SetupAns)} {r : Except PyExc Unit}
    {db : NssDb} {disk' : NssDisk}
    (h : (importPkcs12Identity openssl pk12util certutil dbAbs dbSpec row).Exec u tr r u')
    (hdisk : Evolves ToolStep (some db) tr disk') :
    ∃ db', disk' = some db' ∧
      ((r = .ok () ∧ db'.imported = insert row.1 db.imported ∧
          db'.trusted = insert row.1 db.trusted ∧ Installed row tr) ∨
        (∃ e, r = .error e) ∧ (db'.imported = db.imported ∨
          db'.imported = insert row.1 db.imported ∧ TrustFails row.1 tr)) := by
  unfold importPkcs12Identity at h
  rcases Eff.exec_bind.mp h with ⟨e, rfl, hpem⟩ | ⟨found, u₁, tr₁, tr₂, rfl, hpem, hrest⟩
  · obtain rfl := eq_of_inspects (hasPemFiles_inspects _ _ hpem) hdisk
    exact ⟨db, rfl, .inr ⟨⟨e, rfl⟩, .inl rfl⟩⟩
  obtain ⟨disk₁, hdisk₁, hdisk₂⟩ := evolves_append_iff.mp hdisk
  obtain rfl := eq_of_inspects (hasPemFiles_inspects _ _ hpem) hdisk₁
  cases found with
  -- without the PEM files nothing is imported
  | false =>
    obtain ⟨rfl, rfl, -⟩ := Eff.exec_throw.mp hrest
    obtain rfl := evolves_nil_iff.mp hdisk₂
    exact ⟨db, rfl, .inr ⟨⟨_, rfl⟩, .inl rfl⟩⟩
  | true =>
    -- the bundle is removed however the tools end
    obtain ⟨r₁, r₂, u₂, tr₃, tr₄, rfl, rfl, htools, hremove⟩ := Eff.exec_finallyDo.mp hrest
    obtain ⟨disk₃, hdisk₃, hdisk₄⟩ := evolves_append_iff.mp hdisk₂
    obtain ⟨db₃, rfl, hcases⟩ := installTools_spec htools hdisk₃
    obtain ⟨rfl, db₄, rfl, himported, htrusted⟩ := removeBundle_spec hremove hdisk₄
    have hsub : ∀ e ∈ tr₃, e ∈ tr₁ ++ (tr₃ ++ tr₄) :=
      fun e he => List.mem_append_right _ (List.mem_append_left _ he)
    refine ⟨db₄, rfl, ?_⟩
    rw [himported, htrusted]
    rcases hcases with ⟨hr, hi, ht, hinstalled⟩ | ⟨hr, hi | ⟨hi, hfails⟩⟩
    · exact .inl ⟨hr, hi, ht, hinstalled.mono hsub⟩
    · exact .inr ⟨hr, .inl hi⟩
    · exact .inr ⟨hr, .inr ⟨hi, hfails.mono hsub⟩⟩

/-! ### All identities -/

/-- What the loop over the identities leaves. -/
structure Imports (rows : List IdentityRow) (db db' : NssDb) (tr : List (Event SetupAns))
    (r : Except PyExc Unit) : Prop where
  kept : db.imported ⊆ db'.imported ∧ (r = .ok () → db.trusted ⊆ db'.trusted)
  bound : ∀ n ∈ db'.imported, n ∈ db.imported ∨ n ∈ rows.map Prod.fst
  done : r = .ok () → ∀ row ∈ rows, row.1 ∈ db'.imported ∧ row.1 ∈ db'.trusted ∧ Installed row tr
  stopped : ∀ e last, r = .error e → (rows.map Prod.fst).Nodup →
    (rows.map Prod.fst).getLast? = some last → last ∉ db.imported → ¬ TrustFails last tr →
    last ∉ db'.imported

/-- The loop either installs every identity, or stops before the last one is
imported, unless it is the trust setting of that one that failed. -/
theorem importAll_spec {openssl pk12util certutil dbAbs dbSpec : String} {rows : List IdentityRow}
    {u u' : Unit} {tr : List (Event SetupAns)} {r : Except PyExc Unit} {db : NssDb}
    {disk' : NssDisk} (h : (importAll openssl pk12util certutil dbAbs dbSpec rows).Exec u tr r u')
    (hdisk : Evolves ToolStep (some db) tr disk') :
    ∃ db', disk' = some db' ∧ Imports rows db db' tr r := by
  induction rows generalizing u tr db with
  | nil =>
    obtain ⟨rfl, rfl, -⟩ := Eff.exec_pure.mp h
    refine ⟨db, evolves_nil_iff.mp hdisk, ⟨Finset.Subset.refl _, fun _ => Finset.Subset.refl _⟩,
      fun n hn => .inl hn, fun _ row hrow => absurd hrow List.not_mem_nil, ?_⟩
    intro e last hr
    cases hr
  | cons row rows ih =>
    unfold importAll at h
    rcases Eff.exec_bind.mp h with ⟨e, rfl, hone⟩ | ⟨⟨⟩, u₁, tr₁, tr₂, rfl, hone, hrest⟩
    · -- the first identity stops the loop
      obtain ⟨db', rfl, ⟨hr, -⟩ | ⟨-, hcases⟩⟩ := importPkcs12Identity_spec hone hdisk
      · cases hr
      -- it may have been imported before its trust setting failed
      have hbound : db.imported ⊆ db'.imported ∧ db'.imported ⊆ insert row.1 db.imported := by
        rcases hcases with hi | ⟨hi, -⟩
        · rw [hi]
          exact ⟨Finset.Subset.refl _, Finset.subset_insert _ _⟩
        · rw [hi]
          exact ⟨Finset.subset_insert _ _, Finset.Subset.refl _⟩
      refine ⟨db', rfl, ⟨hbound.1, nofun⟩, ?_, nofun, ?_⟩
      · intro n hn
        rcases Finset.mem_insert.mp (hbound.2 hn) with rfl | hn
        · exact .inr List.mem_cons_self
        · exact .inl hn
      · intro e' last _ hnodup hlast hnew hfails hmem
        rcases Finset.mem_insert.mp (hbound.2 hmem) with rfl | hold
        · -- the last identity is the one that stopped the loop
          rcases hcases with hi | ⟨-, htrust⟩
          · rw [hi] at hmem
            exact hnew hmem
          · exact hfails htrust
        · exact hnew hold
    · obtain ⟨disk₁, hdisk₁, hdisk₂⟩ := evolves_append_iff.mp hdisk
      obtain ⟨db₁, rfl, ⟨-, hi, ht, hinstalled⟩ | ⟨⟨e, hr⟩, -⟩⟩ :=
        importPkcs12Identity_spec hone hdisk₁
      swap
      · cases hr
      -- the first identity is installed, and the loop goes on with the others
      obtain ⟨db', rfl, himports⟩ := ih hrest hdisk₂
      refine ⟨db', rfl, ⟨?_, ?_⟩, ?_, ?_, ?_⟩
      · refine Finset.Subset.trans ?_ himports.kept.1
        rw [hi]
        exact Finset.subset_insert _ _
      · intro hr
        refine Finset.Subset.trans ?_ (himports.kept.2 hr)
        rw [ht]
        exact Finset.subset_insert _ _
      · intro n hn
        rcases himports.bound n hn with hold | hnew
        · rw [hi] at hold
          rcases Finset.mem_insert.mp hold with rfl | hold
          · exact .inr List.mem_cons_self
          · exact .inl hold
        · exact .inr (List.mem_cons_of_mem _ hnew)
      · intro hr row' hrow'
        rcases List.mem_cons.mp hrow' with rfl | hrow'
        · refine ⟨himports.kept.1 ?_, himports.kept.2 hr ?_, hinstalled.mono (mem_append_left_of _)⟩
          · rw [hi]
            exact Finset.mem_insert_self _ _
          · rw [ht]
            exact Finset.mem_insert_self _ _
        · obtain ⟨hin, htr, hins⟩ := himports.done hr row' hrow'
          exact ⟨hin, htr, hins.mono (mem_append_right_of _)⟩
      · intro e last hr hnodup hlast hnew hfails
        rw [List.map_cons, List.nodup_cons] at hnodup
        cases rows with
        | nil =>
          -- nothing is left that could fail
          obtain ⟨-, hret, -⟩ := Eff.exec_pure.mp hrest
          rw [hr] at hret
          cases hret
        | cons row₂ rows =>
          rw [List.map_cons, List.map_cons, List.getLast?_cons_cons, ← List.map_cons] at hlast
          -- the last identity is another one, and is not there yet
          have hne : last ≠ row.1 := by
            rintro rfl
            exact hnodup.1 (List.mem_of_getLast? hlast)
          refine himports.stopped e last hr hnodup.2 hlast ?_ fun hf =>
            hfails (hf.mono (mem_append_right_of _))
          rw [hi, Finset.mem_insert]
          rintro (heq | hold)
          · exact hne heq
          · exact hnew hold

/-! ### The whole setup -/

/-- How a setup ends: it fails before it touches the database, it finds every
nickname, it rebuilds the database, or it fails while it does. -/
inductive SetupOutcome (identities : List IdentityRow) (disk disk' : NssDisk)
    (tr : List (Event SetupAns)) (r : Except PyExc Unit) : Prop
  | refused : ¬ Rebuilds tr → (∃ e, r = .error e) → disk' = disk →
      SetupOutcome identities disk disk' tr r
  | found : ¬ Rebuilds tr → r = .ok () → disk' = disk →
      (∀ row ∈ identities, InDb disk row.1) → SetupOutcome identities disk disk' tr r
  | rebuilt : Rebuilds tr → r = .ok () →
      (∀ row ∈ identities, InDb disk' row.1 ∧ Installed row tr) →
      SetupOutcome identities disk disk' tr r
  | failed : Rebuilds tr → (∃ e, r = .error e) →
      (∀ last, (identities.map Prod.fst).Nodup → (identities.map Prod.fst).getLast? = some last →
        ¬ TrustFails last tr → ¬ InDb disk' last) →
      SetupOutcome identities disk disk' tr r

section

variable {openssl pk12util certutil dbAbs dbSpec : String} {identities : List IdentityRow}
variable {u u' : Unit} {tr : List (Event SetupAns)} {r : Except PyExc Unit} {disk disk' : NssDisk}

/-- Whatever was there, nothing is left when the directory is made. -/
theorem emptyDirectory_spec (h : (emptyDirectory dbAbs).Exec u tr r u')
    (hdisk : Evolves ToolStep disk tr disk') : r = .ok () ∧ disk' = some {} := by
  have hmake : ∀ {u tr}, (Eff.invoke (SetupCall.makedirs dbAbs) id : SetupM Unit).Exec u tr r u' →
      Evolves ToolStep none tr disk' → r = .ok () ∧ disk' = some {} := by
    intro u tr hexec hev
    obtain ⟨ans, rfl, hans, -⟩ := Eff.exec_invoke.mp hexec
    obtain ⟨hok, hmade⟩ : ans = .ok () ∧ disk' = some (Option.getD none {}) :=
      evolves_singleton_iff.mp hev
    exact ⟨hans.symm.trans hok, hmade⟩
  unfold emptyDirectory at h
  obtain ⟨found, u₁, tr₁, tr', rfl, hlook, hrest⟩ := (Eff.Total.call _).exec_bind h
  obtain ⟨ans, rfl, hans, -⟩ := Eff.exec_call.mp hlook
  obtain rfl := Except.ok.inj hans
  obtain ⟨disk₁, hdisk₁, hdisk'⟩ := evolves_append_iff.mp hdisk
  obtain ⟨rfl, rfl⟩ : ans = disk.isSome ∧ disk₁ = disk := evolves_singleton_iff.mp hdisk₁
  cases disk₁ with
  | none => exact hmake hrest hdisk'
  | some db =>
    rcases Eff.exec_bind.mp hrest with ⟨e, rfl, hremove⟩ | ⟨⟨⟩, u₂, tr₂, tr₃, rfl, hremove, hmade⟩
    · obtain ⟨ans, rfl, hans, -⟩ := Eff.exec_invoke.mp hremove
      obtain ⟨hok, -⟩ : ans = .ok () ∧ disk' = none := evolves_singleton_iff.mp hdisk'
      cases hans.symm.trans hok
    · obtain ⟨ans, rfl, -, -⟩ := Eff.exec_invoke.mp hremove
      obtain ⟨disk₂, hdisk₂, hdisk₃⟩ := evolves_append_iff.mp hdisk'
      obtain ⟨-, rfl⟩ : ans = .ok () ∧ disk₂ = none := evolves_singleton_iff.mp hdisk₂
      exact hmake hmade hdisk₃

theorem Rebuilds.mono {tr' : List (Event SetupAns)} (h : Rebuilds tr) (hsub : ∀ e ∈ tr, e ∈ tr') :
    Rebuilds tr' := by
  obtain ⟨certutil, dbSpec, ans, hmem⟩ := h
  exact ⟨certutil, dbSpec, ans, hsub _ hmem⟩

/-- A rebuilt database holds every identity, or lacks the last one when the rebuild
stopped before the trust setting of that. -/
theorem rebuildNssDb_spec
    (h : (rebuildNssDb openssl pk12util certutil dbAbs dbSpec identities).Exec u tr r u')
    (hdisk : Evolves ToolStep disk tr disk') : SetupOutcome identities disk disk' tr r := by
  unfold rebuildNssDb at h
  rcases Eff.exec_bind.mp h with ⟨e, rfl, hempty⟩ | ⟨⟨⟩, u₁, tr₁, tr', rfl, hempty, hrest⟩
  · obtain ⟨hr, -⟩ := emptyDirectory_spec hempty hdisk
    cases hr
  obtain ⟨disk₁, hdisk₁, hdisk'⟩ := evolves_append_iff.mp hdisk
  obtain ⟨-, rfl⟩ := emptyDirectory_spec hempty hdisk₁
  rcases Eff.exec_bind.mp hrest with ⟨e, rfl, hnew⟩ | ⟨⟨⟩, u₂, tr₂, tr₃, rfl, hnew, himport⟩
  · -- the database is not made: its directory is empty
    have hrebuilds : Rebuilds tr' := by
      obtain ⟨ans, rfl, -⟩ := exec_runChecked hnew
      exact ⟨certutil, dbSpec, ans, List.mem_singleton_self _⟩
    rcases runChecked_spec hnew hdisk' with ⟨hr, -⟩ | ⟨-, rfl, -⟩
    · cases hr
    refine .failed (hrebuilds.mono (mem_append_right_of _)) ⟨e, rfl⟩ ?_
    rintro last - - - ⟨db, hdb, hmem⟩
    obtain rfl := Option.some.inj hdb
    exact absurd hmem (Finset.notMem_empty last)
  · -- the import starts from an empty database
    have hrebuilds : Rebuilds (tr₁ ++ (tr₂ ++ tr₃)) := by
      obtain ⟨ans, rfl, -⟩ := exec_runChecked hnew
      exact ⟨certutil, dbSpec, ans, List.mem_append_right _ (List.mem_append_left _
        (List.mem_singleton_self _))⟩
    have hsub : ∀ e ∈ tr₃, e ∈ tr₁ ++ (tr₂ ++ tr₃) :=
      fun e he => List.mem_append_right _ (List.mem_append_right _ he)
    obtain ⟨disk₂, hdisk₂, hdisk₃⟩ := evolves_append_iff.mp hdisk'
    obtain ⟨-, hmade, -⟩ | ⟨⟨e, hr⟩, -⟩ := runChecked_spec hnew hdisk₂
    swap
    · cases hr
    obtain rfl : disk₂ = some {} := hmade
    obtain ⟨db', rfl, himports⟩ := importAll_spec himport hdisk₃
    cases r with
    | ok _ =>
      refine .rebuilt hrebuilds rfl fun row hrow => ?_
      obtain ⟨hin, -, hinstalled⟩ := himports.done rfl row hrow
      exact ⟨⟨db', rfl, hin⟩, hinstalled.mono hsub⟩
    | error e =>
      refine .failed hrebuilds ⟨e, rfl⟩ ?_
      -- an import that stops has not come to the last nickname, but at its trust setting
      rintro last hnodup hlast hfails ⟨db, hdb, hmem⟩
      obtain rfl := Option.some.inj hdb
      have hnofail : ¬ TrustFails last tr₃ := fun hf => hfails (hf.mono hsub)
      exact himports.stopped e last rfl hnodup hlast (Finset.notMem_empty last) hnofail hmem

theorem SetupOutcome.prepend {tr₀ : List (Event SetupAns)}
    (h : SetupOutcome identities disk disk' tr r) (h₀ : ¬ Rebuilds tr₀) :
    SetupOutcome identities disk disk' (tr₀ ++ tr) r := by
  have hnot : ¬ Rebuilds tr → ¬ Rebuilds (tr₀ ++ tr) := by
    rintro hno ⟨certutil, dbSpec, ans, hmem⟩
    rcases List.mem_append.mp hmem with hmem | hmem
    · exact h₀ ⟨certutil, dbSpec, ans, hmem⟩
    · exact hno ⟨certutil, dbSpec, ans, hmem⟩
  have hsub : ∀ e ∈ tr, e ∈ tr₀ ++ tr := mem_append_right_of tr₀
  cases h with
  | refused hno hr hsame => exact .refused (hnot hno) hr hsame
  | found hno hr hsame hall => exact .found (hnot hno) hr hsame hall
  | rebuilt hre hr hall =>
    exact .rebuilt (hre.mono hsub) hr fun row hrow =>
      ⟨(hall row hrow).1, (hall row hrow).2.mono hsub⟩
  | failed hre hr hlast =>
    refine .failed (hre.mono hsub) hr fun last hnodup hget hfails => ?_
    exact hlast last hnodup hget fun hf => hfails (hf.mono hsub)

/-- What comes before the rebuild only looks. -/
theorem setupOutcome_bind {α : Type} {m : SetupM α} {f : α → SetupM Unit}
    (hm : Eff.Within inspects m) (h : (m >>= f).Exec u tr r u')
    (hdisk : Evolves ToolStep disk tr disk')
    (hf : ∀ a u₁ tr₁ tr₂, m.Exec u tr₁ (.ok a) u₁ → Evolves ToolStep disk tr₁ disk →
      (f a).Exec u₁ tr₂ r u' → Evolves ToolStep disk tr₂ disk' →
      SetupOutcome identities disk disk' tr₂ r) :
    SetupOutcome identities disk disk' tr r := by
  rcases Eff.exec_bind.mp h with ⟨e, rfl, hfirst⟩ | ⟨a, u₁, tr₁, tr₂, rfl, hfirst, hrest⟩
  · exact .refused (not_rebuilds_of_inspects (hm hfirst)) ⟨e, rfl⟩ (eq_of_inspects (hm hfirst) hdisk)
  · obtain ⟨disk₁, hdisk₁, hdisk₂⟩ := evolves_append_iff.mp hdisk
    obtain rfl := eq_of_inspects (hm hfirst) hdisk₁
    have hsecond := hf a u₁ tr₁ tr₂ hfirst hdisk₁ hrest hdisk₂
    exact hsecond.prepend (not_rebuilds_of_inspects (hm hfirst))

/-- **The setup** finds every nickname, rebuilds the database, or fails. -/
theorem ensureNssDbIdentities_spec (h : (ensureNssDbIdentities dbAbs identities).Exec u tr r u')
    (hdisk : Evolves ToolStep disk tr disk') : SetupOutcome identities disk disk' tr r := by
  unfold ensureNssDbIdentities at h
  by_cases hnone : identities = []
  · have hnothing : ¬ Rebuilds [] := by
      rintro ⟨certutil, dbSpec, ans, hmem⟩
      exact absurd hmem List.not_mem_nil
    simp only [if_pos hnone] at h
    obtain ⟨rfl, rfl, -⟩ := Eff.exec_throw_bind.mp h
    exact .refused hnothing ⟨_, rfl⟩ (evolves_nil_iff.mp hdisk)
  simp only [if_neg hnone] at h
  refine setupOutcome_bind (requireCliTool_inspects _) h hdisk fun certutil _ _ _ _ _ h hdisk => ?_
  refine setupOutcome_bind (requireCliTool_inspects _) h hdisk fun pk12util _ _ _ _ _ h hdisk => ?_
  refine setupOutcome_bind (requireCliTool_inspects _) h hdisk fun openssl _ _ _ _ _ h hdisk => ?_
  refine setupOutcome_bind (.invoke (Eff.callsOnly_single rfl)) h hdisk fun _ _ _ _ _ _ h hdisk => ?_
  refine setupOutcome_bind (hasAllNicknames_inspects ..) h hdisk
    fun found _ tr₁ tr₂ hlook hdisk₁ h hdisk => ?_
  cases found with
  | false => exact rebuildNssDb_spec h hdisk
  | true =>
    -- every nickname is reported: the database is taken as it is
    have hall := hasAllNicknames_spec hlook hdisk₁
    obtain ⟨rfl, rfl, -⟩ := Eff.exec_pure.mp h
    refine .found ?_ rfl (evolves_nil_iff.mp hdisk) fun row hrow => hall row.1 ?_
    · rintro ⟨certutil, dbSpec, ans, hmem⟩
      exact absurd hmem List.not_mem_nil
    · exact List.mem_map_of_mem hrow

/-- Without identities nothing is rebuilt. -/
theorem ne_nil_of_rebuilds (h : (ensureNssDbIdentities dbAbs identities).Exec u tr r u')
    (hre : Rebuilds tr) : identities ≠ [] := by
  intro hnone
  unfold ensureNssDbIdentities at h
  simp only [if_pos hnone] at h
  obtain ⟨rfl, -, -⟩ := Eff.exec_throw_bind.mp h
  obtain ⟨certutil, dbSpec, ans, hmem⟩ := hre
  exact absurd hmem List.not_mem_nil

end

end TlsInterop.NSS
