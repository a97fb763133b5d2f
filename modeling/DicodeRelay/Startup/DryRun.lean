import DicodeRelay.Startup.Restart

/-!
Contract: dry runs of a start.

Owns:
- that a dry run only looks and reads;
- that it answers like the start it stands for, unless that cannot write.

Does not own: a signing key that is kept in a file of the generated pair.
-/

namespace DicodeRelay.Startup

open DicodeRelay.Lib DicodeRelay.Shared

/-! ### What a dry run touches -/

/-- A dry run draws a pair without keeping it. -/
theorem looks_drawPair (certPath keyPath : String) (hosts : List String) :
    Within Looks (drawPair certPath keyPath hosts true) := fun h => .refl h

/-- A dry run only looks for the pair in the working directory and reads it. -/
theorem looks_autoPair (tools : StartPrimitives) (baseUrl : String) :
    Within Looks (tools.autoPair baseUrl true) := by
  intro h
  have certLooked := Looks.looked h (joinPath h.cwd AUTO_MTLS_CERT_FILENAME)
  have bothLooked := Looks.trans _ _ _ certLooked
    (.looked _ (joinPath h.cwd AUTO_MTLS_KEY_FILENAME))
  rw [exec_autoPair]
  dsimp only
  split
  · split
    · exact Looks.trans _ _ _ bothLooked (looks_readPair _ _)
    · exact Looks.trans _ _ _ bothLooked (looks_drawPair _ _ _ _)
  · exact Looks.trans _ _ _ certLooked (looks_drawPair _ _ _ _)

theorem looks_autoSigningKey (cwd : String) : Within Looks (autoSigningKey cwd false) := by
  intro h
  have looked := Looks.looked h (joinPath cwd AUTO_KEY_FILENAME)
  rw [exec_autoSigningKey]
  dsimp only
  split
  · exact Looks.trans _ _ _ looked (looks_readText _ _)
  · exact looked

theorem looks_signingKeyPem (env : Env) (cwd signingKeyFile : String) (shared : Bool) :
    Within Looks (signingKeyPem env cwd signingKeyFile false shared) := by
  unfold signingKeyPem
  cases setting env "BROKER_SIGNING_KEY_FILE" with
  | some file => exact looks_readText file
  | none =>
      cases setting env "BROKER_SIGNING_KEY" with
      | some pem => exact .pure Looks.refl pem
      | none =>
          refine .ite (fun _ => ?_) fun _ => .ite (fun _ => .throw Looks.refl _) fun _ =>
            looks_autoSigningKey cwd
          exact (looks_existsSync _).bind Looks.trans fun _ =>
            .ite (fun _ => .throw Looks.refl _) fun _ => looks_readText _

/-- A dry run writes nothing. -/
theorem looks_resolveIdentity (tools : StartPrimitives) (cfg : RelayConfig) (env : Env) :
    Within Looks (tools.resolveIdentity cfg env true) := by
  have certs : Within Looks (tools.resolveMtlsCert cfg true) :=
    .ite (fun _ => looks_explicitPair _) fun _ => .ite (fun _ => looks_readPair _) fun _ =>
      .ite (fun _ => .throw Looks.refl _) fun _ => looks_autoPair tools cfg.baseUrl
  have key : ∀ cwd, Within Looks (tools.loadBrokerSigningKey env cwd cfg.signingKeyFile (!true)
      cfg.multiInstance) := by
    intro cwd
    refine (looks_signingKeyPem env cwd _ _).bind Looks.trans fun pem => ?_
    cases tools.loadKeyPair pem with
    | none => exact .throw Looks.refl _
    | some privateKey => exact .pure Looks.refl _
  rw [resolveIdentity_eq_bind]
  refine (looks_createPublicServer tools cfg.tls).bind Looks.trans fun _ =>
    certs.bind Looks.trans fun mtlsCert => .ite (fun _ => .throw Looks.refl _) fun _ => ?_
  exact .bind Looks.trans (fun h => .refl h) fun cwd =>
    (key cwd).bind Looks.trans fun _ => .pure Looks.refl _

/-! ### The start and its dry run -/

/-- The failures that a dry run does not foresee. -/
def FailsToWrite (failure : StartError) : Prop := ∃ path, failure = .writeFailed path

def pairFiles (cwd : String) : List String :=
  [joinPath cwd AUTO_MTLS_CERT_FILENAME, joinPath cwd AUTO_MTLS_KEY_FILENAME]

/-- The start and its dry run have done the same so far. -/
def Beside (cwd : String) (s t : Host) : Prop := s = t ∧ s.cwd = cwd

/-- The start may have kept a pair that the dry run has not. -/
structure Alike (cwd : String) (s t : Host) : Prop where
  here : s.cwd = cwd
  there : t.cwd = cwd
  drawnKey : s.drawnKey = t.drawnKey
  files : ∀ path, path ∉ pairFiles cwd → s.files path = t.files path

theorem Beside.alike {cwd : String} {s t : Host} (beside : Beside cwd s t) : Alike cwd s t := by
  obtain ⟨rfl, here⟩ := beside
  exact ⟨here, here, rfl, fun _ _ => rfl⟩

/-- The path does not name a file of the generated pair. -/
def Spared (cwd path : String) : Prop :=
  (if isAbsolute path then path else joinPath cwd path) ∉ pairFiles cwd

namespace Alike

variable {cwd path : String} {s t : Host}

theorem find (alike : Alike cwd s t) (spared : Spared cwd path) : s.find path = t.find path := by
  simp only [Host.find, Host.resolve, alike.here, alike.there]
  exact alike.files _ spared

theorem access (alike : Alike cwd s t) (left right : FileAccess) :
    Alike cwd (s.access left) (t.access right) :=
  ⟨alike.here, alike.there, alike.drawnKey, alike.files⟩

theorem madeDir (alike : Alike cwd s t) (access : FileAccess) : Alike cwd (s.access access) t :=
  ⟨alike.here, alike.there, alike.drawnKey, alike.files⟩

theorem store (alike : Alike cwd s t) (generated : path ∈ pairFiles cwd)
    (absolute : isAbsolute path = true) (bytes : Bytes) : Alike cwd (s.store path bytes) t := by
  refine ⟨alike.here, alike.there, alike.drawnKey, fun other spared => ?_⟩
  have apart : other ≠ s.resolve path := by
    rw [resolve_of_isAbsolute absolute]
    rintro rfl
    exact spared generated
  exact (if_neg apart).trans (alike.files other spared)

end Alike

/-- The dry run answers like the start as long as that can write. -/
abbrev Rehearsed {α : Type} (before after : Host → Host → Prop) (m rehearsal : Start α) : Prop :=
  Mirrors FailsToWrite before after m rehearsal

/-- What writes nothing goes the same way in both. -/
theorem rehearsed_of_looks {α : Type} {cwd : String} {m : Start α} (looks : Within Looks m) :
    Rehearsed (Beside cwd) (Beside cwd) m m := by
  rintro s t ⟨rfl, here⟩
  exact Or.inr ⟨rfl, rfl, (looks s).cwd.trans here⟩

theorem rehearsed_existsSync {cwd path : String} (spared : Spared cwd path) :
    Rehearsed (Alike cwd) (Alike cwd) (existsSync path) (existsSync path) := by
  intro s t alike
  refine Or.inr ⟨?_, alike.access _ _⟩
  exact congrArg (fun found => Except.ok (Option.isSome found)) (alike.find spared)

theorem rehearsed_readText {cwd path : String} (spared : Spared cwd path) :
    Rehearsed (Alike cwd) (Alike cwd) (readText path) (readText path) := by
  have read : Rehearsed (Alike cwd) (Alike cwd) (readFileSync path) (readFileSync path) := by
    intro s t alike
    refine Or.inr ⟨?_, alike.access _ _⟩
    simp only [readFileSync, Computation.exec, ExceptT.run, ExceptT.mk, StateT.run,
      alike.find spared]
  exact read.bind (fun _ _ alike => alike) fun _ => .pure (fun _ _ alike => alike) _

/-! ### What a dry run leaves out -/

/-- A directory is made, or the start fails to write. -/
theorem exec_mkdirSync_cases (path : String) (h : Host) :
    (∃ failure, ((mkdirSync path).exec h).1 = .error failure ∧ FailsToWrite failure) ∨
      (mkdirSync path).exec h = (.ok (), h.access (.madeDir path)) := by
  simp only [mkdirSync, Computation.exec, ExceptT.run, ExceptT.mk, StateT.run]
  split
  · exact Or.inl ⟨_, rfl, path, rfl⟩
  · exact Or.inr rfl

/-- A file is written, or the start fails to write. -/
theorem exec_writeFileSync_cases (path text : String) (h : Host) :
    (∃ failure, ((writeFileSync path text).exec h).1 = .error failure ∧ FailsToWrite failure) ∨
      (writeFileSync path text).exec h =
        (.ok (), (h.store path (utf8 text)).access (.wrote path)) := by
  simp only [writeFileSync, Computation.exec, ExceptT.run, ExceptT.mk, StateT.run]
  split
  · exact Or.inl ⟨_, rfl, path, rfl⟩
  · exact Or.inr rfl

theorem rehearsed_mkdirSync {α : Type} {cwd path : String} {before after : Host → Host → Prop}
    (alike : ∀ s t, before s t → Alike cwd s t) {next : Unit → Start α} {rehearsal : Start α}
    (rest : ∀ done, Rehearsed (Alike cwd) after (next done) rehearsal) :
    Rehearsed before after (mkdirSync path >>= next) rehearsal := by
  refine Mirrors.skip (fun s t related => ?_) rest
  rcases exec_mkdirSync_cases path s with failed | made
  · exact Or.inl failed
  · exact Or.inr ⟨_, _, made, (alike s t related).madeDir _⟩

/-- A file of the pair that only the start writes. -/
theorem rehearsed_writeFileSync {α : Type} {cwd path text : String}
    {after : Host → Host → Prop} (generated : path ∈ pairFiles cwd)
    (absolute : isAbsolute path = true) {next : Unit → Start α} {rehearsal : Start α}
    (rest : ∀ done, Rehearsed (Alike cwd) after (next done) rehearsal) :
    Rehearsed (Alike cwd) after (writeFileSync path text >>= next) rehearsal := by
  refine Mirrors.skip (fun s t alike => ?_) rest
  rcases exec_writeFileSync_cases path text s with failed | wrote
  · exact Or.inl failed
  · exact Or.inr ⟨_, _, wrote, (alike.store generated absolute _).madeDir _⟩

section

variable {cwd : String} (absolute : isAbsolute cwd = true)
include absolute

theorem isAbsolute_autoFiles : isAbsolute (joinPath cwd AUTO_MTLS_CERT_FILENAME) = true ∧
    isAbsolute (joinPath cwd AUTO_MTLS_KEY_FILENAME) = true ∧
    isAbsolute (joinPath cwd AUTO_KEY_FILENAME) = true :=
  ⟨isAbsolute_joinPath absolute names_autoFiles.1 slashFree_autoFiles.1,
    isAbsolute_joinPath absolute names_autoFiles.2.1 slashFree_autoFiles.2.1,
    isAbsolute_joinPath absolute names_autoFiles.2.2 slashFree_autoFiles.2.2⟩

/-- The generated signing key is in a file of its own. -/
theorem spared_autoKey : Spared cwd (joinPath cwd AUTO_KEY_FILENAME) := by
  unfold Spared
  rw [if_pos (isAbsolute_autoFiles absolute).2.2, pairFiles, List.mem_cons, List.mem_singleton]
  rintro (cert | key)
  · have names := joinPath_inj absolute names_autoFiles.2.2 names_autoFiles.1
      slashFree_autoFiles.2.2 slashFree_autoFiles.1 cert
    exact absurd names (by decide)
  · have names := joinPath_inj absolute names_autoFiles.2.2 names_autoFiles.2.1
      slashFree_autoFiles.2.2 slashFree_autoFiles.2.1 key
    exact absurd names (by decide)

/-- The start keeps the pair that both draw. -/
theorem rehearsed_drawPair (hosts : List String) :
    Rehearsed (Beside cwd) (Alike cwd)
      (drawPair (joinPath cwd AUTO_MTLS_CERT_FILENAME) (joinPath cwd AUTO_MTLS_KEY_FILENAME) hosts
        false)
      (drawPair (joinPath cwd AUTO_MTLS_CERT_FILENAME) (joinPath cwd AUTO_MTLS_KEY_FILENAME) hosts
        true) := by
  have drawn : Rehearsed (Beside cwd) (Beside cwd) (ask fun h => h.drawnCert hosts)
      (ask fun h => h.drawnCert hosts) := rehearsed_of_looks fun h => .refl h
  refine drawn.bind (fun _ _ beside => beside.alike) fun generated => ?_
  refine rehearsed_mkdirSync (fun _ _ beside => beside.alike) fun _ => ?_
  refine rehearsed_writeFileSync List.mem_cons_self (isAbsolute_autoFiles absolute).1 fun _ => ?_
  refine rehearsed_writeFileSync (List.mem_cons_of_mem _ List.mem_cons_self)
    (isAbsolute_autoFiles absolute).2.1 fun _ => ?_
  exact .pure (fun _ _ alike => alike) generated

/-- Both find the same pair or draw it. -/
theorem rehearsed_autoPair (tools : StartPrimitives) (baseUrl : String) :
    Rehearsed (Beside cwd) (Alike cwd) (tools.autoPair baseUrl false)
      (tools.autoPair baseUrl true) := by
  rintro s t ⟨rfl, rfl⟩
  have read : Rehearsed (Beside s.cwd) (Beside s.cwd)
      (readPair ⟨joinPath s.cwd AUTO_MTLS_CERT_FILENAME, joinPath s.cwd AUTO_MTLS_KEY_FILENAME⟩)
      (readPair ⟨joinPath s.cwd AUTO_MTLS_CERT_FILENAME, joinPath s.cwd AUTO_MTLS_KEY_FILENAME⟩) :=
    rehearsed_of_looks (looks_readPair _)
  rw [exec_autoPair, exec_autoPair]
  dsimp only
  split
  · split
    · exact read.weaken (fun _ _ beside => beside) (fun _ _ beside => beside.alike) _ _ ⟨rfl, rfl⟩
    · exact rehearsed_drawPair absolute _ _ _ ⟨rfl, rfl⟩
  · exact rehearsed_drawPair absolute _ _ _ ⟨rfl, rfl⟩

/-- Both find the same key or draw it, as the pair's files are no key file. -/
theorem rehearsed_autoSigningKey :
    Rehearsed (Alike cwd) (fun _ _ => True) (autoSigningKey cwd true)
      (autoSigningKey cwd false) := by
  have weaker : ∀ s t, Alike cwd s t → True := fun _ _ _ => trivial
  refine (rehearsed_existsSync (spared_autoKey absolute)).bind weaker fun present => ?_
  refine .ite (fun _ => ?_) fun _ => ?_
  · exact (rehearsed_readText (spared_autoKey absolute)).weaken (fun _ _ alike => alike) weaker
  · have drawn : Rehearsed (Alike cwd) (Alike cwd) (ask Host.drawnKey) (ask Host.drawnKey) :=
      fun s t alike => Or.inr ⟨congrArg Except.ok alike.drawnKey, alike⟩
    refine drawn.bind weaker fun pem => ?_
    refine rehearsed_mkdirSync (fun _ _ alike => alike) fun _ => ?_
    have done : Rehearsed (fun _ _ => True) (fun _ _ => True) (pure pem) (pure pem) :=
      .pure (fun _ _ _ => trivial) pem
    refine Mirrors.skip (fun s t _ => ?_) fun _ => done
    exact (exec_writeFileSync_cases _ pem s).imp_right fun wrote => ⟨_, _, wrote, trivial⟩

theorem rehearsed_signingKeyPem (env : Env) (signingKeyFile : String) (shared : Bool)
    (sparesEnv : ∀ file, setting env "BROKER_SIGNING_KEY_FILE" = some file → Spared cwd file)
    (sparesConfig : signingKeyFile ≠ "" → Spared cwd signingKeyFile) :
    Rehearsed (Alike cwd) (fun _ _ => True) (signingKeyPem env cwd signingKeyFile true shared)
      (signingKeyPem env cwd signingKeyFile false shared) := by
  have weaker : ∀ s t, Alike cwd s t → True := fun _ _ _ => trivial
  have kept : ∀ s t, Alike cwd s t → Alike cwd s t := fun _ _ alike => alike
  unfold signingKeyPem
  cases keyFile : setting env "BROKER_SIGNING_KEY_FILE" with
  | some file => exact (rehearsed_readText (sparesEnv file keyFile)).weaken kept weaker
  | none =>
      cases setting env "BROKER_SIGNING_KEY" with
      | some pem => exact .pure weaker pem
      | none =>
          refine .ite (fun named => ?_) fun _ => .ite (fun _ => .throw weaker _) fun _ =>
            rehearsed_autoSigningKey absolute
          refine (rehearsed_existsSync (sparesConfig named)).bind weaker fun present => ?_
          exact .ite (fun _ => .throw weaker _) fun _ =>
            (rehearsed_readText (sparesConfig named)).weaken kept weaker

end

/-- The signing key that is named is not in a file of the generated pair. -/
def SparesPair (cwd : String) (cfg : RelayConfig) (env : Env) : Prop :=
  (∀ file, setting env "BROKER_SIGNING_KEY_FILE" = some file → Spared cwd file) ∧
    (cfg.signingKeyFile ≠ "" → Spared cwd cfg.signingKeyFile)

/-- Both take the same signing key, wherever it comes from. -/
theorem rehearsed_resolveKey {cwd : String} (absolute : isAbsolute cwd = true)
    (tools : StartPrimitives) {cfg : RelayConfig} {env : Env} (spares : SparesPair cwd cfg env)
    (mtlsCert : MtlsCertPems) :
    Rehearsed (Alike cwd) (fun _ _ => True) (tools.resolveKey cfg env false mtlsCert)
      (tools.resolveKey cfg env true mtlsCert) := by
  have weaker : ∀ s t : Host, True → True := fun _ _ _ => trivial
  have loaded : Rehearsed (Alike cwd) (fun _ _ => True)
      (tools.loadBrokerSigningKey env cwd cfg.signingKeyFile true cfg.multiInstance)
      (tools.loadBrokerSigningKey env cwd cfg.signingKeyFile false cfg.multiInstance) := by
    refine (rehearsed_signingKeyPem absolute env cfg.signingKeyFile cfg.multiInstance spares.1
      spares.2).bind weaker fun pem => ?_
    cases tools.loadKeyPair pem with
    | none => exact .throw weaker _
    | some privateKey => exact .pure weaker _
  refine .ite (fun _ => .throw (fun _ _ _ => trivial) _) fun _ => ?_
  intro s t alike
  have asked : ∀ h : Host, h.cwd = cwd → (ask Host.cwd).exec h = (.ok cwd, h) := by
    rintro h rfl
    rfl
  rw [Computation.exec_bind_of_ok (asked s alike.here),
    Computation.exec_bind_of_ok (asked t alike.there)]
  exact loaded.bind weaker (fun _ => .pure weaker _) s t alike

/-- A dry run writes nothing. It fails, or presents the identity, just as the start
would in its place, unless that start cannot write a file it generates. -/
theorem dry_run_rehearses (tools : StartPrimitives) {cfg : RelayConfig} {env : Env} {h : Host}
    (absolute : isAbsolute h.cwd = true) (spares : SparesPair h.cwd cfg env) :
    let start := (tools.resolveIdentity cfg env false).exec h
    let dry := (tools.resolveIdentity cfg env true).exec h
    Looks h dry.2 ∧
      ((∃ path, start.1 = .error (.writeFailed path)) ∨ start.1 = dry.1) := by
  intro start dry
  have served : Rehearsed (Beside h.cwd) (Beside h.cwd) (tools.createPublicServer cfg.tls)
      (tools.createPublicServer cfg.tls) := rehearsed_of_looks (looks_createPublicServer tools _)
  have certs : Rehearsed (Beside h.cwd) (Alike h.cwd) (tools.resolveMtlsCert cfg false)
      (tools.resolveMtlsCert cfg true) := by
    have kept : ∀ s t, Beside h.cwd s t → Beside h.cwd s t := fun _ _ beside => beside
    have weaker : ∀ s t, Beside h.cwd s t → Alike h.cwd s t := fun _ _ beside => beside.alike
    refine .ite (fun _ => (rehearsed_of_looks (looks_explicitPair _)).weaken kept weaker)
      fun _ => .ite (fun _ => (rehearsed_of_looks (looks_readPair _)).weaken kept weaker)
        fun _ => .ite (fun _ => .throw weaker _) fun _ =>
          rehearsed_autoPair absolute tools cfg.baseUrl
  have whole : Rehearsed (Beside h.cwd) (fun _ _ => True) (tools.resolveIdentity cfg env false)
      (tools.resolveIdentity cfg env true) := by
    rw [resolveIdentity_eq_bind, resolveIdentity_eq_bind]
    exact served.bind (fun _ _ _ => trivial) fun _ => certs.bind (fun _ _ _ => trivial)
      (rehearsed_resolveKey absolute tools spares)
  refine ⟨looks_resolveIdentity tools cfg env h, ?_⟩
  rcases whole h h ⟨rfl, rfl⟩ with ⟨failure, failed, path, rfl⟩ | ⟨same, _⟩
  · exact Or.inl ⟨path, failed⟩
  · exact Or.inr same

/-- Where nothing may be written a dry run passes, and the start it stands for fails. -/
theorem dry_run_rehearses_denied :
    let h := { Sample.fresh with denied := fun _ => true }
    let start := (Sample.keyTools.resolveIdentity Sample.bare (fun _ => none) false).exec h
    let dry := (Sample.keyTools.resolveIdentity Sample.bare (fun _ => none) true).exec h
    Looks h dry.2 ∧ ((∃ path, start.1 = .error (.writeFailed path)) ∨ start.1 = dry.1) := by
  have absolute : isAbsolute Sample.fresh.cwd = true := by decide +kernel
  have spares : SparesPair Sample.fresh.cwd Sample.bare (fun _ => none) := by
    refine ⟨fun file named => ?_, fun named => absurd rfl named⟩
    cases named
  exact dry_run_rehearses Sample.keyTools absolute spares

end DicodeRelay.Startup
