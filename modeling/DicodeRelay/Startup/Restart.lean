import DicodeRelay.Lib.Replay
import DicodeRelay.Startup.Identity

/-!
Contract: starts that follow another one in the same working directory.

Owns:
- that the generated files are three different ones in the working directory;
- that a start after one that succeeded has the same identity and writes nothing,
  whatever it would draw.

Does not own: what changes the files between two starts.
-/

namespace DicodeRelay.Startup

open DicodeRelay.Lib DicodeRelay.Shared

/-! ### The generated files -/

/-- The segments of an absolute directory in its normal form. -/
def directorySegments (directory : String) : List (List Char) :=
  (pathSegments directory.toList.tail).foldl (pushSegment false) []

theorem directorySegments_settled (directory : String) :
    ∀ segment ∈ directorySegments directory, Names segment ∧ '/' ∉ segment :=
  foldl_pushSegment (fun _ => slash_not_mem) [] (by simp)

/-- A file of a directory is its last segment. -/
theorem toList_joinPath {directory name : String} (absolute : isAbsolute directory = true)
    (names : Names name.toList) (slashFree : '/' ∉ name.toList) :
    (joinPath directory name).toList =
      '/' :: joinSegments (directorySegments directory ++ [name.toList]) := by
  obtain ⟨rest, split⟩ : ∃ rest, directory.toList = '/' :: rest := by
    have first : directory.toList.head? = some '/' := of_decide_eq_true absolute
    cases chars : directory.toList with
    | nil => simp [chars] at first
    | cons c rest =>
        rw [chars, List.head?_cons] at first
        exact ⟨rest, by rw [Option.some.inj first]⟩
  have whole : (directory ++ "/" ++ name).toList = '/' :: (rest ++ '/' :: name.toList) := by
    simp [String.toList_append, split]
  have ends : ('/' :: (rest ++ '/' :: name.toList)).getLast? ≠ some '/' := by
    have split' : '/' :: (rest ++ '/' :: name.toList) = ('/' :: rest ++ ['/']) ++ name.toList := by
      simp
    rw [split', List.getLast?_append_of_ne_nil _ names.1]
    exact fun last => slashFree (List.mem_of_getLast? last)
  have segments : (pathSegments (rest ++ '/' :: name.toList)).foldl (pushSegment false) [] =
      directorySegments directory ++ [name.toList] := by
    rw [pathSegments_append_slash, pathSegments_of_slashFree slashFree, List.foldl_append,
      List.foldl_cons, List.foldl_nil, pushSegment_of_names names, directorySegments, split]
    rfl
  have some : joinSegments (directorySegments directory ++ [name.toList]) ≠ [] := by
    refine joinSegments_ne_nil (by simp) ?_
    intro segment member
    rcases List.mem_append.mp member with inDirectory | last
    · exact (directorySegments_settled directory segment inDirectory).1
    · obtain rfl := List.mem_singleton.mp last
      exact names
  rw [joinPath, String.toList_ofList, whole, posixNormalize_absolute, segments]
  simp only [if_neg some, if_neg ends, List.append_nil]

/-- Two names give two files of a directory. -/
theorem joinPath_inj {directory a b : String} (absolute : isAbsolute directory = true)
    (namesA : Names a.toList) (namesB : Names b.toList) (slashFreeA : '/' ∉ a.toList)
    (slashFreeB : '/' ∉ b.toList) (same : joinPath directory a = joinPath directory b) : a = b := by
  have lists := congrArg String.toList same
  rw [toList_joinPath absolute namesA slashFreeA, toList_joinPath absolute namesB slashFreeB]
    at lists
  have slashFree : ∀ name : String, '/' ∉ name.toList →
      ∀ segment ∈ directorySegments directory ++ [name.toList], '/' ∉ segment := by
    intro name free segment member
    rcases List.mem_append.mp member with inDirectory | last
    · exact (directorySegments_settled directory segment inDirectory).2
    · obtain rfl := List.mem_singleton.mp last
      exact free
  have segments := congrArg pathSegments (List.cons.inj lists).2
  rw [pathSegments_joinSegments (by simp) (slashFree a slashFreeA),
    pathSegments_joinSegments (by simp) (slashFree b slashFreeB)] at segments
  exact String.toList_inj.mp (List.singleton_inj.mp (List.append_cancel_left segments))

theorem isAbsolute_joinPath {directory name : String} (absolute : isAbsolute directory = true)
    (names : Names name.toList) (slashFree : '/' ∉ name.toList) :
    isAbsolute (joinPath directory name) = true := by
  simp [isAbsolute, toList_joinPath absolute names slashFree]

/-! ### What a start leaves behind -/

/-- The host only looked and read. -/
structure Looks (h h' : Host) : Prop where
  cwd : h'.cwd = h.cwd
  files : h'.files = h.files
  accesses : ∃ more, h'.accesses = h.accesses ++ more ∧
    ∀ access ∈ more, ∃ path, access = .looked path ∨ access = .read path

/-- The host still has every file, and perhaps more. -/
structure Later (h h' : Host) : Prop where
  cwd : h'.cwd = h.cwd
  files : ∀ path entry, h.files path = some entry → h'.files path = some entry

namespace Looks

theorem refl (h : Host) : Looks h h := ⟨rfl, rfl, [], by simp, by simp⟩

theorem looked (h : Host) (path : String) : Looks h (h.access (.looked path)) :=
  ⟨rfl, rfl, [.looked path], rfl, by simp⟩

theorem read (h : Host) (path : String) : Looks h (h.access (.read path)) :=
  ⟨rfl, rfl, [.read path], rfl, by simp⟩

theorem trans (h₁ h₂ h₃ : Host) (first : Looks h₁ h₂) (second : Looks h₂ h₃) : Looks h₁ h₃ := by
  obtain ⟨more, grown, own⟩ := first.accesses
  obtain ⟨more', grown', own'⟩ := second.accesses
  refine ⟨second.cwd.trans first.cwd, second.files.trans first.files, more ++ more', ?_, ?_⟩
  · rw [grown', grown, List.append_assoc]
  · intro access member
    rcases List.mem_append.mp member with earlier | later
    · exact own access earlier
    · exact own' access later

theorem later {h h' : Host} (looks : Looks h h') : Later h h' :=
  ⟨looks.cwd, fun path _ present => (congrFun looks.files path).trans present⟩

end Looks

namespace Later

theorem refl (h : Host) : Later h h := ⟨rfl, fun _ _ present => present⟩

theorem trans (h₁ h₂ h₃ : Host) (first : Later h₁ h₂) (second : Later h₂ h₃) : Later h₁ h₃ :=
  ⟨second.cwd.trans first.cwd, fun path entry present =>
    second.files path entry (first.files path entry present)⟩

theorem looks (h₁ h₂ h₃ : Host) (later : Later h₁ h₂) (looks : Looks h₂ h₃) : Later h₁ h₃ :=
  trans h₁ h₂ h₃ later looks.later

theorem find {h h' : Host} (later : Later h h') {path : String} {entry : FileEntry}
    (present : h.find path = some entry) : h'.find path = some entry := by
  rw [Host.find, Host.resolve, later.cwd]
  exact later.files _ entry present

end Later

/-- A start that succeeded can be repeated from what it has left behind, and then only
looks and reads. -/
def Repeats {α : Type} (m again : Start α) : Prop := ∀ h, Replays Later Looks m again h

theorem later_of_looks {α : Type} {m : Start α} (looks : Within Looks m) : Within Later m :=
  fun h => (looks h).later

theorem Repeats.bind {α β : Type} {m again : Start α} {next next' : α → Start β}
    (first : Repeats m again) (grows : ∀ answer, Within Later (next answer))
    (rest : ∀ answer, Repeats (next answer) (next' answer)) :
    Repeats (m >>= next) (again >>= next') :=
  fun h => (first h).bind Later.trans Later.looks Looks.trans grows rest

theorem Repeats.pure {α : Type} (answer : α) : Repeats (Pure.pure answer) (Pure.pure answer) :=
  fun _ => .pure Looks.refl answer

theorem Repeats.throw {α : Type} (failure : StartError) (again : Start α) :
    Repeats (MonadExcept.throw failure) again :=
  fun _ => .throw failure again

/-- Both runs are in one working directory. -/
theorem Repeats.askCwd {α : Type} {next next' : String → Start α}
    (grows : ∀ cwd, Within Later (next cwd)) (rest : ∀ cwd, Repeats (next cwd) (next' cwd)) :
    Repeats (ask Host.cwd >>= next) (ask Host.cwd >>= next') := by
  intro h h' answer ran t later
  have asked : ∀ h : Host, (ask Host.cwd).exec h = (.ok h.cwd, h) := fun _ => rfl
  rw [Computation.exec_bind_of_ok (asked h)] at ran
  have grown := grows h.cwd h
  rw [ran] at grown
  have cwd : t.cwd = h.cwd := later.cwd.trans grown.cwd
  rw [Computation.exec_bind_of_ok (asked t), cwd]
  exact rest h.cwd h h' answer ran t later

/-! ### Reading -/

theorem looks_existsSync (path : String) : Within Looks (existsSync path) :=
  fun h => .looked h path

theorem looks_readText (path : String) : Within Looks (readText path) := by
  have read : Within Looks (readFileSync path) := fun h => .read h path
  exact read.bind Looks.trans fun _ => .pure Looks.refl _

theorem looks_readPair (cfg : TlsConfig) : Within Looks (readPair cfg) :=
  (looks_readText _).bind Looks.trans fun _ => (looks_readText _).bind Looks.trans fun _ =>
    .pure Looks.refl _

theorem repeats_readFileSync (path : String) :
    Repeats (readFileSync path) (readFileSync path) := by
  intro h h' bytes ran t later
  obtain ⟨present, rfl⟩ : h.find path = some (.contents bytes) ∧ h.access (.read path) = h' := by
    simp only [readFileSync, Computation.exec, ExceptT.run, ExceptT.mk, StateT.run,
      Prod.mk.injEq] at ran
    obtain ⟨answer, ends⟩ := ran
    split at answer
    · rename_i found
      obtain rfl := Except.ok.inj answer
      exact ⟨found, ends⟩
    · contradiction
  have still : t.find path = some (.contents bytes) := later.find present
  refine ⟨t.access (.read path), ?_, .read t path⟩
  simp only [readFileSync, Computation.exec, ExceptT.run, ExceptT.mk, StateT.run, still]

theorem repeats_readText (path : String) : Repeats (readText path) (readText path) :=
  (repeats_readFileSync path).bind (fun _ => .pure Later.refl _) fun _ => .pure _

theorem repeats_readPair (cfg : TlsConfig) : Repeats (readPair cfg) (readPair cfg) :=
  (repeats_readText _).bind (fun _ => (later_of_looks (looks_readText _)).bind Later.trans fun _ =>
    .pure Later.refl _) fun _ => (repeats_readText _).bind (fun _ => .pure Later.refl _)
      fun _ => .pure _

/-- A file that had to be there is still there. -/
theorem repeats_guard {α : Type} (path : String) (failure : StartError) {m again : Start α}
    (grows : Within Later m) (repeats : Repeats m again) :
    Repeats (existsSync path >>= fun present => if present = false then throw failure else m)
      (existsSync path >>= fun present => if present = false then throw failure else again) := by
  intro h h' answer ran t later
  have looked : ∀ h : Host, (existsSync path).exec h =
      (.ok (h.find path).isSome, h.access (.looked path)) := fun _ => rfl
  rw [Computation.exec_bind_of_ok (looked h)] at ran
  cases found : h.find path with
  | none =>
      rw [found] at ran
      cases ran
  | some entry =>
      rw [found] at ran
      have ran' : m.exec (h.access (.looked path)) = (.ok answer, h') := ran
      have grown := grows (h.access (.looked path))
      rw [ran'] at grown
      have still : t.find path = some entry := (Later.trans _ _ _ grown later).find found
      obtain ⟨t', repeated, quiet⟩ :=
        repeats _ _ _ ran' (t.access (.looked path)) (later.looks _ _ _ (.looked t path))
      refine ⟨t', ?_, Looks.trans _ _ _ (.looked t path) quiet⟩
      rw [Computation.exec_bind_of_ok (looked t), still]
      exact repeated

/-! ### Generating -/

/-- A directory that is made changes no file. -/
theorem exec_mkdirSync_ok {path : String} {h h' : Host} {done : Unit}
    (ran : (mkdirSync path).exec h = (.ok done, h')) : h' = h.access (.madeDir path) := by
  simp only [mkdirSync, Computation.exec, ExceptT.run, ExceptT.mk, StateT.run,
    Prod.mk.injEq] at ran
  exact ran.2.symm

theorem exec_writeFileSync_ok {path text : String} {h h' : Host} {done : Unit}
    (ran : (writeFileSync path text).exec h = (.ok done, h')) :
    h' = (h.store path (utf8 text)).access (.wrote path) := by
  simp only [writeFileSync, Computation.exec, ExceptT.run, ExceptT.mk, StateT.run] at ran
  split at ran
  · cases ran
  · exact (Prod.mk.inj ran).2.symm

/-- A file has the text that is written to it. -/
theorem holds_store (h : Host) (path text : String) : Holds (h.store path (utf8 text)) path text :=
  if_pos rfl

theorem Holds.store {h : Host} {path text : String} (holds : Holds h path text) {other : String}
    (apart : h.resolve path ≠ h.resolve other) (bytes : Bytes) :
    Holds (h.store other bytes) path text :=
  (if_neg apart).trans holds

/-- The signing key of the working directory is read, or drawn and kept there. -/
theorem exec_autoSigningKey (cwd : String) (allow : Bool) (h : Host) :
    (autoSigningKey cwd allow).exec h =
      let path := joinPath cwd AUTO_KEY_FILENAME
      let looked := h.access (.looked path)
      if (h.find path).isSome then (readText path).exec looked
      else if allow then
        (mkdirSync (dirname path) >>= fun _ => writeFileSync path h.drawnKey >>= fun _ =>
          pure h.drawnKey : Start String).exec looked
      else (.ok h.drawnKey, looked) := by
  have looked : (existsSync (joinPath cwd AUTO_KEY_FILENAME)).exec h =
      (.ok (h.find (joinPath cwd AUTO_KEY_FILENAME)).isSome,
        h.access (.looked (joinPath cwd AUTO_KEY_FILENAME))) := rfl
  unfold autoSigningKey
  rw [Computation.exec_bind_of_ok looked]
  dsimp only
  split
  · rfl
  · have drawn : (ask Host.drawnKey).exec (h.access (.looked (joinPath cwd AUTO_KEY_FILENAME))) =
        (.ok h.drawnKey, h.access (.looked (joinPath cwd AUTO_KEY_FILENAME))) := rfl
    rw [Computation.exec_bind_of_ok drawn]
    cases allow <;> rfl

/-- The second start finds the key that the first one drew. -/
theorem repeats_autoSigningKey {cwd : String} (allow : Bool) :
    Repeats (autoSigningKey cwd true) (autoSigningKey cwd allow) := by
  intro h h' pem ran t later
  rw [exec_autoSigningKey] at ran
  dsimp only at ran
  have present : ∀ entry, t.find (joinPath cwd AUTO_KEY_FILENAME) = some entry →
      (autoSigningKey cwd allow).exec t = (readText (joinPath cwd AUTO_KEY_FILENAME)).exec
        (t.access (.looked (joinPath cwd AUTO_KEY_FILENAME))) := by
    intro entry found
    rw [exec_autoSigningKey]
    simp only [found, Option.isSome_some, if_true]
  split at ran
  · rename_i found
    obtain ⟨entry, found⟩ := Option.isSome_iff_exists.mp found
    have grown := later_of_looks (looks_readText (joinPath cwd AUTO_KEY_FILENAME))
      (h.access (.looked (joinPath cwd AUTO_KEY_FILENAME)))
    rw [ran] at grown
    have still := (Later.trans _ _ _ grown later).find found
    obtain ⟨t', repeated, quiet⟩ := repeats_readText _ _ _ _ ran
      (t.access (.looked (joinPath cwd AUTO_KEY_FILENAME))) (later.looks _ _ _ (.looked t _))
    exact ⟨t', (present entry still).trans repeated, Looks.trans _ _ _ (.looked t _) quiet⟩
  · rw [if_pos rfl] at ran
    obtain ⟨_, made, ranMade, ran⟩ := Computation.exec_bind_eq_ok ran
    obtain ⟨_, wrote, ranWrote, ran⟩ := Computation.exec_bind_eq_ok ran
    cases ran
    obtain rfl := exec_writeFileSync_ok ranWrote
    have stored : Holds ((made.store (joinPath cwd AUTO_KEY_FILENAME) (utf8 h.drawnKey)).access
        (.wrote (joinPath cwd AUTO_KEY_FILENAME))) (joinPath cwd AUTO_KEY_FILENAME) h.drawnKey :=
      (holds_store made (joinPath cwd AUTO_KEY_FILENAME) h.drawnKey).access _
    have kept : Holds t (joinPath cwd AUTO_KEY_FILENAME) h.drawnKey := later.find stored
    refine ⟨_, (present _ kept).trans (kept.access _).read, ?_⟩
    exact Looks.trans _ _ _ (.looked t _) (.read _ _)

/-- Writing a file that is missing leaves every other one. -/
theorem later_store {h : Host} {path : String} (missing : h.find path = none) (bytes : Bytes) :
    Later h (h.store path bytes) := by
  refine ⟨rfl, fun other entry present => ?_⟩
  have apart : other ≠ h.resolve path := by
    rintro rfl
    rw [Host.find] at missing
    rw [missing] at present
    cases present
  exact (if_neg apart).trans present

theorem later_mkdirSync (path : String) : Within Later (mkdirSync path) :=
  fun _ => ⟨rfl, fun _ _ present => present⟩

theorem Later.access {h h' : Host} (later : Later h h') (access : FileAccess) :
    Later h (h'.access access) := ⟨later.cwd, later.files⟩

theorem later_writeFileSync {h : Host} {path : String} (missing : h.find path = none)
    (text : String) : Later h ((writeFileSync path text).exec h).2 := by
  simp only [writeFileSync, Computation.exec, ExceptT.run, ExceptT.mk, StateT.run]
  split
  · exact (Later.refl h).access _
  · exact (later_store missing (utf8 text)).access _

/-- A start keeps every file it finds. -/
theorem later_autoSigningKey (cwd : String) (allow : Bool) :
    Within Later (autoSigningKey cwd allow) := by
  intro h
  have looked : Later h (h.access (.looked (joinPath cwd AUTO_KEY_FILENAME))) :=
    (Looks.looked h _).later
  rw [exec_autoSigningKey]
  dsimp only
  split
  · exact looked.trans _ _ _ (later_of_looks (looks_readText _) _)
  · rename_i absent
    split
    · have missing : h.find (joinPath cwd AUTO_KEY_FILENAME) = none :=
        Option.not_isSome_iff_eq_none.mp absent
      apply looked.trans
      apply Within.bind_at Later.trans (later_mkdirSync _ _)
      intro done made ran
      obtain rfl := exec_mkdirSync_ok ran
      have still : ((h.access (.looked (joinPath cwd AUTO_KEY_FILENAME))).access
          (.madeDir (dirname (joinPath cwd AUTO_KEY_FILENAME)))).find
          (joinPath cwd AUTO_KEY_FILENAME) = none := missing
      apply Within.bind_at Later.trans (later_writeFileSync still h.drawnKey)
      exact fun _ kept _ => .refl kept
    · exact looked

/-! ### The generated pair -/

/-- A new pair, kept in its files unless the run is a dry one. -/
def drawPair (certPath keyPath : String) (hosts : List String) (dryRun : Bool) :
    Start MtlsCertPems := do
  let generated ← ask fun h => h.drawnCert hosts
  if dryRun = false then
    mkdirSync (dirname certPath)
    writeFileSync certPath generated.certPem
    writeFileSync keyPath generated.keyPem
  return generated

/-- The pair of the working directory is read if both files are there, and drawn
otherwise. -/
theorem exec_autoPair (tools : StartPrimitives) (baseUrl : String) (dryRun : Bool) (h : Host) :
    (tools.autoPair baseUrl dryRun).exec h =
      let certPath := joinPath h.cwd AUTO_MTLS_CERT_FILENAME
      let keyPath := joinPath h.cwd AUTO_MTLS_KEY_FILENAME
      let hosts := ((tools.hostname baseUrl).filter (· ≠ "")).toList
      let looked := h.access (.looked certPath)
      let both := looked.access (.looked keyPath)
      if (h.find certPath).isSome then
        if (h.find keyPath).isSome then (readPair ⟨certPath, keyPath⟩).exec both
        else (drawPair certPath keyPath hosts dryRun).exec both
      else (drawPair certPath keyPath hosts dryRun).exec looked := by
  dsimp only
  unfold StartPrimitives.autoPair
  rw [Computation.exec_bind_of_ok (show (ask Host.cwd).exec h = (.ok h.cwd, h) from rfl)]
  rw [Computation.exec_bind_of_ok
    (show (existsSync (joinPath h.cwd AUTO_MTLS_CERT_FILENAME)).exec h = (.ok _, _) from rfl)]
  cases (h.find (joinPath h.cwd AUTO_MTLS_CERT_FILENAME)).isSome with
  | false => rfl
  | true =>
      simp only [if_true]
      rw [Computation.exec_bind_of_ok
        (show (existsSync (joinPath h.cwd AUTO_MTLS_KEY_FILENAME)).exec _ = (.ok _, _) from rfl)]
      rw [show ∀ access, (h.access access).find (joinPath h.cwd AUTO_MTLS_KEY_FILENAME) =
        h.find (joinPath h.cwd AUTO_MTLS_KEY_FILENAME) from fun _ => rfl]
      cases (h.find (joinPath h.cwd AUTO_MTLS_KEY_FILENAME)).isSome with
      | false => rfl
      | true => rfl

/-- A pair that was drawn and kept is in its two files. -/
theorem holds_drawPair {certPath keyPath : String} {hosts : List String} {h h' : Host}
    {pems : MtlsCertPems} (apart : h.resolve certPath ≠ h.resolve keyPath)
    (ran : (drawPair certPath keyPath hosts false).exec h = (.ok pems, h')) :
    h'.cwd = h.cwd ∧ Holds h' certPath pems.certPem ∧ Holds h' keyPath pems.keyPem := by
  unfold drawPair at ran
  rw [Computation.exec_bind_of_ok
    (show (ask fun h => h.drawnCert hosts).exec h = (.ok (h.drawnCert hosts), h) from rfl),
    if_pos rfl] at ran
  obtain ⟨_, made, ranMade, ran⟩ := Computation.exec_bind_eq_ok ran
  obtain ⟨_, first, ranFirst, ran⟩ := Computation.exec_bind_eq_ok ran
  obtain ⟨_, second, ranSecond, ran⟩ := Computation.exec_bind_eq_ok ran
  cases ran
  obtain rfl := exec_mkdirSync_ok ranMade
  obtain rfl := exec_writeFileSync_ok ranFirst
  obtain rfl := exec_writeFileSync_ok ranSecond
  refine ⟨rfl, ?_, (holds_store _ keyPath _).access _⟩
  exact (((holds_store (h.access _) certPath _).access _).store apart _).access _

theorem names_autoFiles : Names AUTO_MTLS_CERT_FILENAME.toList ∧
    Names AUTO_MTLS_KEY_FILENAME.toList ∧ Names AUTO_KEY_FILENAME.toList := by decide +kernel

theorem slashFree_autoFiles : '/' ∉ AUTO_MTLS_CERT_FILENAME.toList ∧
    '/' ∉ AUTO_MTLS_KEY_FILENAME.toList ∧ '/' ∉ AUTO_KEY_FILENAME.toList := by decide +kernel

theorem resolve_of_isAbsolute {path : String} (absolute : isAbsolute path = true) (h : Host) :
    h.resolve path = path := if_pos absolute

/-- The two generated files are not the same one. -/
theorem autoPair_apart {h : Host} (absolute : isAbsolute h.cwd = true) (other : Host) :
    other.resolve (joinPath h.cwd AUTO_MTLS_CERT_FILENAME) ≠
      other.resolve (joinPath h.cwd AUTO_MTLS_KEY_FILENAME) := by
  rw [resolve_of_isAbsolute (isAbsolute_joinPath absolute names_autoFiles.1 slashFree_autoFiles.1),
    resolve_of_isAbsolute
      (isAbsolute_joinPath absolute names_autoFiles.2.1 slashFree_autoFiles.2.1)]
  intro same
  have names := joinPath_inj absolute names_autoFiles.1 names_autoFiles.2.1 slashFree_autoFiles.1
    slashFree_autoFiles.2.1 same
  exact absurd names (by decide)

/-- The second start reads the pair that the first one drew. -/
theorem replays_autoPair (tools : StartPrimitives) (baseUrl : String) (dryRun : Bool) {h : Host}
    (absolute : isAbsolute h.cwd = true) :
    Replays Later Looks (tools.autoPair baseUrl false) (tools.autoPair baseUrl dryRun) h := by
  intro h' pems ran t later
  rw [exec_autoPair] at ran
  dsimp only at ran
  have drawn : ∀ {h₁ : Host} {hosts : List String},
      (drawPair (joinPath h.cwd AUTO_MTLS_CERT_FILENAME) (joinPath h.cwd AUTO_MTLS_KEY_FILENAME)
        hosts false).exec h₁ = (.ok pems, h') → h₁.cwd = h.cwd →
      ∃ t', (tools.autoPair baseUrl dryRun).exec t = (.ok pems, t') ∧ Looks t t' := by
    intro h₁ hosts ranDraw sameCwd
    obtain ⟨kept, cert, key⟩ := holds_drawPair (autoPair_apart absolute h₁) ranDraw
    have cwd : t.cwd = h.cwd := (later.cwd.trans kept).trans sameCwd
    have certStill : Holds t _ pems.certPem := later.find cert
    have keyStill : Holds t _ pems.keyPem := later.find key
    rw [exec_autoPair, cwd]
    dsimp only
    rw [show t.find (joinPath h.cwd AUTO_MTLS_CERT_FILENAME) = some _ from certStill,
      show t.find (joinPath h.cwd AUTO_MTLS_KEY_FILENAME) = some _ from keyStill]
    simp only [Option.isSome_some, if_true]
    refine ⟨_, exec_readPair ((certStill.access _).access _) ((keyStill.access _).access _), ?_⟩
    exact Looks.trans _ _ _ (.looked t _) (Looks.trans _ _ _ (.looked _ _)
      (Looks.trans _ _ _ (.read _ _) (.read _ _)))
  split at ran
  · rename_i certFound
    split at ran
    · rename_i keyFound
      obtain ⟨cert, certFound⟩ := Option.isSome_iff_exists.mp certFound
      obtain ⟨key, keyFound⟩ := Option.isSome_iff_exists.mp keyFound
      have grown := later_of_looks (looks_readPair ⟨joinPath h.cwd AUTO_MTLS_CERT_FILENAME,
        joinPath h.cwd AUTO_MTLS_KEY_FILENAME⟩) ((h.access
          (.looked (joinPath h.cwd AUTO_MTLS_CERT_FILENAME))).access
          (.looked (joinPath h.cwd AUTO_MTLS_KEY_FILENAME)))
      rw [ran] at grown
      have after := Later.trans _ _ _ grown later
      have cwd : t.cwd = h.cwd := after.cwd
      obtain ⟨t', repeated, quiet⟩ := repeats_readPair _ _ _ _ ran
        ((t.access (.looked (joinPath h.cwd AUTO_MTLS_CERT_FILENAME))).access
          (.looked (joinPath h.cwd AUTO_MTLS_KEY_FILENAME)))
        ((later.access _).access _)
      rw [exec_autoPair, cwd]
      dsimp only
      rw [after.find certFound, after.find keyFound]
      simp only [Option.isSome_some, if_true]
      exact ⟨t', repeated, Looks.trans _ _ _ (.looked t _) (Looks.trans _ _ _ (.looked _ _) quiet)⟩
    · exact drawn ran rfl
  · exact drawn ran rfl

/-! ### The rest of a start -/

theorem looks_explicitPair (cfg : TlsConfig) : Within Looks (explicitPair cfg) :=
  (looks_existsSync _).bind Looks.trans fun _ => .ite (fun _ => .throw Looks.refl _) fun _ =>
    (looks_existsSync _).bind Looks.trans fun _ => .ite (fun _ => .throw Looks.refl _) fun _ =>
      looks_readPair cfg

theorem repeats_explicitPair (cfg : TlsConfig) : Repeats (explicitPair cfg) (explicitPair cfg) := by
  have keyGuard : Within Later (existsSync cfg.keyFile >>= fun present =>
      if present = false then throw (.missingMtlsFile cfg.keyFile) else readPair cfg) :=
    later_of_looks ((looks_existsSync _).bind Looks.trans fun _ =>
      .ite (fun _ => .throw Looks.refl _) fun _ => looks_readPair cfg)
  exact repeats_guard cfg.certFile _ keyGuard
    (repeats_guard cfg.keyFile _ (later_of_looks (looks_readPair cfg)) (repeats_readPair cfg))

/-- Only the key in the working directory is ever written. -/
theorem later_signingKeyPem (env : Env) (cwd signingKeyFile : String) (allow shared : Bool) :
    Within Later (signingKeyPem env cwd signingKeyFile allow shared) := by
  unfold signingKeyPem
  cases setting env "BROKER_SIGNING_KEY_FILE" with
  | some file => exact later_of_looks (looks_readText file)
  | none =>
      cases setting env "BROKER_SIGNING_KEY" with
      | some pem => exact .pure Later.refl pem
      | none =>
          refine .ite (fun _ => ?_) fun _ => .ite (fun _ => .throw Later.refl _) fun _ =>
            later_autoSigningKey cwd allow
          exact later_of_looks ((looks_existsSync _).bind Looks.trans fun _ =>
            .ite (fun _ => .throw Looks.refl _) fun _ => looks_readText _)

/-- A later start takes the key from where the first one took it. -/
theorem repeats_signingKeyPem (env : Env) (cwd signingKeyFile : String) (allow shared : Bool) :
    Repeats (signingKeyPem env cwd signingKeyFile true shared)
      (signingKeyPem env cwd signingKeyFile allow shared) := by
  unfold signingKeyPem
  cases setting env "BROKER_SIGNING_KEY_FILE" with
  | some file => exact repeats_readText file
  | none =>
      cases setting env "BROKER_SIGNING_KEY" with
      | some pem => exact .pure pem
      | none =>
          intro h
          refine .ite (fun _ => ?_) fun _ => .ite (fun _ => .throw _ _) fun _ =>
            repeats_autoSigningKey allow h
          exact repeats_guard _ _ (later_of_looks (looks_readText _)) (repeats_readText _) h

section

variable (tools : StartPrimitives)

theorem later_loadBrokerSigningKey (env : Env) (cwd signingKeyFile : String)
    (allow shared : Bool) :
    Within Later (tools.loadBrokerSigningKey env cwd signingKeyFile allow shared) := by
  refine (later_signingKeyPem env cwd signingKeyFile allow shared).bind Later.trans fun pem => ?_
  cases tools.loadKeyPair pem with
  | none => exact .throw Later.refl _
  | some privateKey => exact .pure Later.refl _

theorem repeats_loadBrokerSigningKey (env : Env) (cwd signingKeyFile : String)
    (allow shared : Bool) :
    Repeats (tools.loadBrokerSigningKey env cwd signingKeyFile true shared)
      (tools.loadBrokerSigningKey env cwd signingKeyFile allow shared) := by
  unfold StartPrimitives.loadBrokerSigningKey
  apply (repeats_signingKeyPem env cwd signingKeyFile allow shared).bind
  · intro pem
    cases tools.loadKeyPair pem with
    | none => exact .throw Later.refl _
    | some privateKey => exact .pure Later.refl _
  · intro pem
    cases tools.loadKeyPair pem with
    | none => exact .throw _ _
    | some privateKey => exact .pure _

theorem looks_createPublicServer (cfg : TlsConfig) :
    Within Looks (tools.createPublicServer cfg) :=
  .ite (fun _ => .bind Looks.trans (fun h => .read h _) fun _ =>
    .bind Looks.trans (fun h => .read h _) fun _ =>
      .ite (fun _ => .throw Looks.refl _) fun _ => .pure Looks.refl _) fun _ => .pure Looks.refl _

theorem repeats_createPublicServer (cfg : TlsConfig) :
    Repeats (tools.createPublicServer cfg) (tools.createPublicServer cfg) := by
  have accepted : ∀ cert key, Within Later (if tools.acceptsCert cert key = false then
        throw .badServerCert else return : Start Unit) ∧
      Repeats (if tools.acceptsCert cert key = false then throw .badServerCert else return :
        Start Unit) (if tools.acceptsCert cert key = false then throw .badServerCert else return) :=
    fun cert key => ⟨.ite (fun _ => .throw Later.refl _) fun _ => .pure Later.refl _,
      fun h => .ite (fun _ => .throw _ _) fun _ => .pure Looks.refl _⟩
  have read : ∀ path, Within Later (readFileSync path) :=
    fun path => later_of_looks fun h => .read h path
  intro h
  refine .ite (fun _ => ?_) fun _ => .pure Looks.refl _
  exact (repeats_readFileSync _).bind (fun cert => (read _).bind Later.trans fun key =>
      (accepted cert key).1) (fun cert => (repeats_readFileSync _).bind
        (fun key => (accepted cert key).1) fun key => (accepted cert key).2) h

end

/-- What `startServer` does with a certificate. -/
def StartPrimitives.resolveKey (tools : StartPrimitives) (cfg : RelayConfig) (env : Env)
    (dryRun : Bool) (mtlsCert : MtlsCertPems) : Start InstanceIdentity :=
  if tools.acceptsCert (utf8 mtlsCert.certPem) (utf8 mtlsCert.keyPem) = false then
    throw .badServerCert
  else do
    let cwd ← ask Host.cwd
    let brokerKey ← tools.loadBrokerSigningKey env cwd cfg.signingKeyFile (!dryRun)
      cfg.multiInstance
    return {
      publicKeyBase64 := brokerKey.publicKeyBase64 tools.keys
      flowStateKey := brokerKey.flowStateKey tools.crypto
      cookieKeys := brokerKey.cookieKeys tools.crypto
      mtlsCert }

/-- The three parts of a start. -/
theorem resolveIdentity_eq_bind (tools : StartPrimitives) (cfg : RelayConfig) (env : Env)
    (dryRun : Bool) :
    tools.resolveIdentity cfg env dryRun = tools.createPublicServer cfg.tls >>= fun _ =>
      tools.resolveMtlsCert cfg dryRun >>= fun mtlsCert =>
        tools.resolveKey cfg env dryRun mtlsCert := rfl

section

variable (tools : StartPrimitives) (cfg : RelayConfig) (env : Env)

theorem later_resolveKey (dryRun : Bool) (mtlsCert : MtlsCertPems) :
    Within Later (tools.resolveKey cfg env dryRun mtlsCert) :=
  .ite (fun _ => .throw Later.refl _) fun _ => .bind Later.trans (fun h => .refl h) fun cwd =>
    (later_loadBrokerSigningKey tools env cwd _ _ _).bind Later.trans fun _ => .pure Later.refl _

/-- A later start with the same certificate has the same identity. -/
theorem repeats_resolveKey (dryRun : Bool) (mtlsCert : MtlsCertPems) :
    Repeats (tools.resolveKey cfg env false mtlsCert)
      (tools.resolveKey cfg env dryRun mtlsCert) := by
  intro h
  refine .ite (fun _ => .throw _ _) fun _ => ?_
  exact Repeats.askCwd
    (fun cwd => (later_loadBrokerSigningKey tools env cwd _ _ _).bind Later.trans fun _ =>
      .pure Later.refl _)
    (fun cwd => (repeats_loadBrokerSigningKey tools env cwd _ _ _).bind
      (fun _ => .pure Later.refl _) fun _ => .pure _) h

end

/-- A start that succeeded without being a dry run leaves its identity behind: a start
after it, in the same working directory and with every file it has left, has the same
identity and writes nothing, whatever it would draw, whatever it may write, and
whether or not it is a dry run. -/
theorem restart_keeps_identity (tools : StartPrimitives) {cfg : RelayConfig} {env : Env}
    {h h' again : Host} {identity : InstanceIdentity} (absolute : isAbsolute h.cwd = true)
    (started : (tools.resolveIdentity cfg env false).exec h = (.ok identity, h'))
    (later : Later h' again) (dryRun : Bool) :
    ∃ again', (tools.resolveIdentity cfg env dryRun).exec again = (.ok identity, again') ∧
      Looks again again' := by
  have rest := repeats_resolveKey tools cfg env dryRun
  have grows := later_resolveKey tools cfg env false
  rw [resolveIdentity_eq_bind] at started ⊢
  by_cases served : cfg.tls.isSet = true
  · -- no pair is generated, so the whole start keeps every file
    have certs : Within Looks (tools.resolveMtlsCert cfg false) ∧
        Repeats (tools.resolveMtlsCert cfg false) (tools.resolveMtlsCert cfg dryRun) := by
      unfold StartPrimitives.resolveMtlsCert
      rw [if_pos served, if_pos served]
      exact ⟨.ite (fun _ => looks_explicitPair _) fun _ => looks_readPair _,
        fun h => .ite (fun _ => repeats_explicitPair _ h) fun _ => repeats_readPair _ h⟩
    have all := (repeats_createPublicServer tools cfg.tls).bind
      (fun _ => (later_of_looks certs.1).bind Later.trans grows)
      (fun _ => certs.2.bind grows rest)
    exact all h h' identity started again later
  · have none : tools.createPublicServer cfg.tls = pure () := if_neg served
    rw [none] at started ⊢
    rw [Computation.exec_bind_of_ok (show (pure () : Start Unit).exec h = (.ok (), h) from rfl)]
      at started
    rw [Computation.exec_bind_of_ok
      (show (pure () : Start Unit).exec again = (.ok (), again) from rfl)]
    have certs : Replays Later Looks (tools.resolveMtlsCert cfg false)
        (tools.resolveMtlsCert cfg dryRun) h := by
      unfold StartPrimitives.resolveMtlsCert
      rw [if_neg served, if_neg served]
      exact .ite (fun _ => repeats_explicitPair _ h) fun _ => .ite (fun _ => .throw _ _) fun _ =>
        replays_autoPair tools cfg.baseUrl dryRun absolute
    exact certs.bind Later.trans Later.looks Looks.trans grows rest h' identity started again later

namespace Sample

/-- A single instance that is configured with no file. -/
def bare : RelayConfig where
  multiInstance := false
  baseUrl := "https://r"
  tls := ⟨"", ""⟩
  mtls := ⟨"", ""⟩
  signingKeyFile := ""

/-- An empty working directory. -/
def fresh : Host where
  cwd := "/srv/relay"
  files _ := none
  denied _ := false
  drawnKey := signingPem
  drawnCert _ := ⟨serverCert, signingPem⟩
  accesses := []

theorem exec_eq_ok {α : Type} {m : Start α} {h : Host}
    (succeeds : (m.exec h).1.toOption.isSome = true) :
    ∃ answer h', m.exec h = (.ok answer, h') := by
  rcases ran : m.exec h with ⟨failure | answer, h'⟩
  · rw [ran] at succeeds
    cases succeeds
  · exact ⟨answer, h', rfl⟩

/-- The first start in an empty directory succeeds. -/
theorem started : ∃ identity kept,
    (keyTools.resolveIdentity bare (fun _ => none) false).exec fresh = (.ok identity, kept) := by
  have pair : (keyTools.resolveMtlsCert bare false).exec fresh =
      (.ok ⟨serverCert, signingPem⟩, ((keyTools.resolveMtlsCert bare false).exec fresh).2) :=
    Prod.ext rfl rfl
  rw [resolveIdentity_eq_bind,
    Computation.exec_bind_of_ok (show (keyTools.createPublicServer bare.tls).exec fresh =
      (.ok (), fresh) from rfl), Computation.exec_bind_of_ok pair, StartPrimitives.resolveKey,
    if_neg (by rw [accepted]; decide)]
  apply exec_eq_ok
  decide +kernel

/-- A host with the same files that may write nothing, and would draw nothing of use. -/
def readOnly (kept : Host) : Host :=
  { kept with denied := fun _ => true, drawnKey := "", drawnCert := fun _ => ⟨"", ""⟩ }

end Sample

/-- After a first start the directory may be read-only, and nothing is drawn again. -/
theorem restart_keeps_identity_readonly :
    ∃ identity kept,
      (Sample.keyTools.resolveIdentity Sample.bare (fun _ => none) false).exec Sample.fresh =
        (.ok identity, kept) ∧
      ∃ again', (Sample.keyTools.resolveIdentity Sample.bare (fun _ => none) false).exec
          (Sample.readOnly kept) = (.ok identity, again') ∧
        Looks (Sample.readOnly kept) again' := by
  obtain ⟨identity, kept, started⟩ := Sample.started
  have absolute : isAbsolute Sample.fresh.cwd = true := by decide +kernel
  have later : Later kept (Sample.readOnly kept) := ⟨rfl, fun _ _ present => present⟩
  exact ⟨identity, kept, started,
    restart_keeps_identity Sample.keyTools absolute started later false⟩

end DicodeRelay.Startup
