import Mathlib
import PropertyFile.Command

/-! What a command leaves on its console: the lines it prints, up to the first that fails. -/

namespace PropertyFile.Command

variable {o : Outside} {decode : Decoder} {r : Request} {schema config : FileState} {s : Store}
  {e : Error} {c d : Console} {t : Text} {value : Option Text} {α β : Type}

namespace Console

@[simp] lemma write_nil (c : Console) : c.write [] = c := by simp [write]

@[simp] lemma writeError_nil (c : Console) : c.writeError [] = c := by simp [writeError]

@[simp] lemma write_write (c : Console) (t u : Text) : (c.write t).write u = c.write (t ++ u) := by
  simp [write]

@[simp] lemma writeError_writeError (c : Console) (t u : Text) :
    (c.writeError t).writeError u = c.writeError (t ++ u) := by
  simp [writeError]

@[simp] lemma heard_nil (c : Console) : c.heard [] = [] := by simp [heard]

lemma heard_append (c : Console) (ms ns : List Message) :
    c.heard (ms ++ ns) = c.heard ms ++ c.heard ns := by
  by_cases he : c.enabled <;> simp [heard, he]

lemma heard_disabled (h : c.enabled = false) (ms : List Message) : c.heard ms = [] := by
  simp [heard, h]

lemma heard_opened (c : Console) (handler : Message → Text) (ms : List Message) :
    (c.opened handler).heard ms = ms.flatMap handler := by
  simp [heard, opened]

end Console

def printed : List (Except Error Text) → Text × Option Error
  | [] => ([], none)
  | .error e :: _ => ([], some e)
  | .ok t :: ls => (t ++ (printed ls).1, (printed ls).2)

lemma printed_ends (ls : List (Except Error Text)) :
    (∃ us : List Text, ls = us.map .ok ∧ printed ls = (us.flatten, none)) ∨
      ∃ (us : List Text) (e : Error) (after : List (Except Error Text)),
        ls = us.map .ok ++ .error e :: after ∧ printed ls = (us.flatten, some e) := by
  induction ls with
  | nil => exact .inl ⟨[], rfl, rfl⟩
  | cons l ls ih =>
    cases l with
    | error e => exact .inr ⟨[], e, ls, rfl, rfl⟩
    | ok t =>
      rcases ih with ⟨us, hls, hp⟩ | ⟨us, e, after, hls, hp⟩
      · exact .inl ⟨t :: us, by simp [hls], by simp [printed, hp]⟩
      · exact .inr ⟨t :: us, e, after, by simp [hls], by simp [printed, hp]⟩

namespace Run

def put (write : Console → Text → Console) (ls : List (Except Error Text)) : Run Unit := fun c =>
  match printed ls with
  | (t, none) => .ok () (write c t)
  | (t, some e) => .error (.raised e) (write c t)

def quit (ls : List (Except Error Text)) : Run α := fun c =>
  match printed ls with
  | (t, none) => .error (.exit 1) (c.writeError t)
  | (t, some e) => .error (.raised e) (c.writeError t)

lemma bind_ok {x : Run α} {f : α → Run β} {a : α} (h : x c = .ok a d) : (x >>= f) c = f a d := by
  simp [bind, EStateM.bind, h]

lemma bind_error {x : Run α} {f : α → Run β} {stop : Stop} (h : x c = .error stop d) :
    (x >>= f) c = .error stop d := by
  simp [bind, EStateM.bind, h]

lemma bind_quit {x : Run α} {ls : List (Except Error Text)} (h : x c = quit ls d)
    (f : α → Run β) : (x >>= f) c = quit ls d := by
  rw [quit] at h ⊢
  rcases hp : printed ls with ⟨t, - | e⟩
  · rw [hp] at h
    exact bind_error h
  · rw [hp] at h
    exact bind_error h

lemma catch_error {x : Run α} {f : Stop → Run α} {stop : Stop} (h : x c = .error stop d) :
    tryCatch x f c = f stop d := by
  simp [tryCatch, tryCatchThe, MonadExceptOf.tryCatch, EStateM.tryCatch, h]
  rfl

lemma catch_ok {x : Run α} {f : Stop → Run α} {a : α} (h : x c = .ok a d) :
    tryCatch x f c = .ok a d := by
  simp [tryCatch, tryCatchThe, MonadExceptOf.tryCatch, EStateM.tryCatch, h]

lemma emit_eq (ms : List Message) (c : Console) : emit ms c = .ok () (c.writeError (c.heard ms)) :=
  rfl

lemma echo_eq (o : Outside) (t : Text) : echo o t = put Console.write [o.print t] := by
  funext c
  rw [echo]
  cases o.print t with
  | error e => exact congrArg _ c.write_nil.symm
  | ok u => exact congrArg (EStateM.Result.ok ()) (by simp [printed])

lemma echoError_eq (o : Outside) (t : Text) :
    echoError o t = put Console.writeError [o.printError t] := by
  funext c
  rw [echoError]
  cases o.printError t with
  | error e => exact congrArg _ c.writeError_nil.symm
  | ok u => exact congrArg (EStateM.Result.ok ()) (by simp [printed])

lemma forM_eq (Fit : Console → Prop) {f : α → Run Unit} {line : α → Except Error Text}
    {write : Console → Text → Console} (hnil : ∀ c, write c [] = c)
    (hwrite : ∀ c t u, write (write c t) u = write c (t ++ u))
    (hfit : ∀ c t, Fit c → Fit (write c t))
    (hf : ∀ a c, Fit c → f a c = put write [line a] c) (as : List α) (hc : Fit c) :
    as.forM f c = put write (as.map line) c := by
  induction as generalizing c with
  | nil => exact congrArg (EStateM.Result.ok ()) (hnil c).symm
  | cons a as ih =>
    have hfirst := hf a c hc
    have hcons : (a :: as).forM f = f a >>= fun _ => as.forM f := rfl
    rw [hcons, List.map_cons]
    cases hl : line a with
    | error e =>
      rw [hl] at hfirst
      exact bind_error hfirst
    | ok t =>
      rw [hl, put, printed, printed, List.append_nil] at hfirst
      rw [bind_ok hfirst, ih (hfit c t hc), put, put, printed]
      rcases printed (as.map line) with ⟨u, - | e⟩ <;> simp [hwrite]

lemma logging_quiet (o : Outside) (body : Run α) : logging o false body = body := rfl

lemma logging_verbose (o : Outside) (body : Run α) (c : Console) :
    logging o true body c = match body (c.opened o.handler) with
      | .ok a d => .ok a d.closed
      | .error stop d => .error stop d.closed := by
  rw [logging, if_pos rfl]
  cases h : body (c.opened o.handler) <;>
    simp [tryFinally, tryFinally', bind, EStateM.bind, modify, modifyGet, MonadStateOf.modifyGet,
      EStateM.modifyGet, Functor.map, EStateM.map, h]

end Run

open Run

def lines (r : Request) (s : Store) : List (Except Error Text) :=
  match r.action with
  | .show none => (Text.sorted s.registry.names).map fun name => (s.get (.name name)).map (row name)
  | .show (some key) => [(s.get (.name key)).map Listing.indented]
  | .check => [.ok (summary r s)]

def outputs (o : Outside) (r : Request) (s : Store) : List (Except Error Text) :=
  (lines r s).map fun l => l.bind o.print

def asked (r : Request) (s : Store) : Except Error (Option Text) :=
  r.action.key?.mapM fun key => s.get (.name key)

def askedNotes (r : Request) (s : Store) : List Message :=
  (r.action.key?.toList.flatMap (defaultNotes s)).map Note.message

def messages (decode : Decoder) (r : Request) (schema config : FileState) : List Message :=
  let l := load decode r schema config
  l.log ++ match l.outcome with
    | .ok s => askedNotes r s
    | .error _ => []

def logged (o : Outside) (r : Request) (schema config : FileState) : Text :=
  if r.verbose then (messages o.decode r schema config).flatMap o.handler else []

inductive Fails (decode : Decoder) (r : Request) (schema config : FileState) : Error → Prop
  | load {e : Error} : (load decode r schema config).outcome = .error e →
    Fails decode r schema config e
  | value {s : Store} {e : Error} : (load decode r schema config).outcome = .ok s →
    asked r s = .error e → Fails decode r schema config e

def diagnosed (o : Outside) (r : Request) (e : Error) : List (Except Error Text) :=
  (diagnosis r.action.name e).map o.printError

lemma fails_or_loads (decode : Decoder) (r : Request) (schema config : FileState) :
    (∃ e, Fails decode r schema config e) ∨
      ∃ s value, (load decode r schema config).outcome = .ok s ∧ asked r s = .ok value := by
  cases hl : (load decode r schema config).outcome with
  | error e => exact .inl ⟨e, .load hl⟩
  | ok s =>
    cases ha : asked r s with
    | error e => exact .inl ⟨e, .value hl ha⟩
    | ok value => exact .inr ⟨s, value, rfl, ha⟩

lemma get_eq (s : Store) (key : Text) (c : Console) :
    get s key c = attempt (s.get (.name key))
      (c.writeError (c.heard ((defaultNotes s key).map Note.message))) := rfl

lemma asking_eq (r : Request) (s : Store) (c : Console) :
    r.action.key?.mapM (get s) c =
      attempt (asked r s) (c.writeError (c.heard (askedNotes r s))) := by
  rw [asked, askedNotes]
  cases r.action.key? with
  | none => exact congrArg (EStateM.Result.ok none) (by simp)
  | some key =>
    have hone : [key].flatMap (defaultNotes s) = defaultNotes s key := by simp
    rw [Option.toList_some, hone]
    change (some <$> attempt (s.get (.name key))) _ = attempt (some <$> s.get (.name key)) _
    cases s.get (.name key) <;> rfl

lemma fetch_of_failure (h : Fails decode r schema config e) (c : Console) :
    fetch decode r schema config c =
      .error (.raised e) (c.writeError (c.heard (messages decode r schema config))) := by
  rw [fetch, bind_ok (emit_eq _ c)]
  cases h with
  | load hl =>
    rw [messages, hl, List.append_nil]
    exact bind_error rfl
  | value hl ha =>
    rw [messages, hl, Console.heard_append, ← Console.writeError_writeError]
    refine (bind_ok rfl).trans (bind_error ?_)
    rw [asking_eq, ha]
    rfl

lemma fetch_of_loaded (hl : (load decode r schema config).outcome = .ok s)
    (ha : asked r s = .ok value) (c : Console) :
    fetch decode r schema config c =
      .ok (s, value) (c.writeError (c.heard (messages decode r schema config))) := by
  rw [fetch, bind_ok (emit_eq _ c), messages, hl, Console.heard_append,
    ← Console.writeError_writeError]
  refine (bind_ok rfl).trans ((bind_ok ?_).trans rfl)
  rw [asking_eq, ha]
  rfl

lemma diagnose_eq (o : Outside) (r : Request) (e : Error) :
    (diagnose o r.action.name e : Run α) = quit (diagnosed o r e) := by
  funext c
  have hput : (diagnosis r.action.name e).forM (echoError o) c =
      put Console.writeError (diagnosed o r e) c :=
    forM_eq (fun _ => True) Console.writeError_nil Console.writeError_writeError
      (fun _ _ _ => trivial) (fun t c _ => by rw [echoError_eq]) _ trivial
  rw [put] at hput
  rw [diagnose, quit]
  rcases hp : printed (diagnosed o r e) with ⟨t, - | e'⟩
  · rw [hp] at hput
    rw [bind_ok hput]
    rfl
  · rw [hp] at hput
    exact bind_error hput

lemma row_eq (h : c.enabled = false) (name : Text) :
    (get s name >>= fun value => echo o (row name value)) c =
      put Console.write [((s.get (.name name)).map (row name)).bind o.print] c := by
  have hget := get_eq s name c
  rw [Console.heard_disabled h, Console.writeError_nil] at hget
  cases hv : s.get (.name name) with
  | error e =>
    rw [hv] at hget
    rw [bind_error hget]
    exact congrArg _ c.write_nil.symm
  | ok v =>
    rw [hv] at hget
    rw [bind_ok hget, echo_eq]
    rfl

lemma listing_eq (h : c.enabled = false) :
    listing o s c = put Console.write ((Text.sorted s.registry.names).map fun name =>
      ((s.get (.name name)).map (row name)).bind o.print) c :=
  forM_eq (fun c => c.enabled = false) Console.write_nil Console.write_write (fun _ _ h => h)
    (fun name _ h => row_eq h name) _ h

lemma printing_eq (h : c.enabled = false) (ha : asked r s = .ok value) :
    printing o r s value c = put Console.write (outputs o r s) c := by
  rw [asked] at ha
  rw [printing.eq_def, outputs, lines]
  cases hr : r.action with
  | check =>
    rw [hr] at ha
    obtain rfl : none = value := Except.ok.inj ha
    exact congrFun (echo_eq o _) c
  | «show» key? =>
    rw [hr] at ha
    cases key? with
    | none =>
      obtain rfl : none = value := Except.ok.inj ha
      rw [List.map_map]
      exact listing_eq h
    | some key =>
      cases hv : s.get (.name key) with
      | error e => simp [Action.key?, Option.mapM, hv] at ha
      | ok v =>
        obtain rfl : some v = value := by simpa [Action.key?, Option.mapM, hv] using ha
        simpa [hv, Except.map, Except.bind] using congrFun (echo_eq o _) c

def Console.left (o : Outside) (r : Request) (schema config : FileState)
    (handlers : List (Message → Text)) : Console :=
  ⟨false, if r.verbose then [] else handlers, [], logged o r schema config⟩

lemma logging_of_failure (h : Fails o.decode r schema config e) (handlers : List (Message → Text)) :
    logging o r.verbose (loading o r schema config) (.silent handlers) =
      quit (diagnosed o r e) (Console.left o r schema config handlers) := by
  have hloading (c : Console) : loading o r schema config c =
      quit (diagnosed o r e) (c.writeError (c.heard (messages o.decode r schema config))) := by
    rw [← diagnose_eq]
    exact catch_error (fetch_of_failure h c)
  rw [Console.left, logged]
  cases r.verbose with
  | false =>
    rw [logging_quiet, hloading, Console.heard_disabled rfl, Console.writeError_nil]
    rfl
  | true =>
    rw [logging_verbose, hloading, Console.heard_opened, quit, quit]
    rcases printed (diagnosed o r e) with ⟨t, - | e'⟩ <;> rfl

lemma logging_of_loaded (hl : (load o.decode r schema config).outcome = .ok s)
    (ha : asked r s = .ok value) (handlers : List (Message → Text)) :
    logging o r.verbose (loading o r schema config) (.silent handlers) =
      .ok (s, value) (Console.left o r schema config handlers) := by
  have hloading (c : Console) : loading o r schema config c =
      .ok (s, value) (c.writeError (c.heard (messages o.decode r schema config))) :=
    catch_ok (fetch_of_loaded hl ha c)
  rw [Console.left, logged]
  cases r.verbose with
  | false =>
    rw [logging_quiet, hloading, Console.heard_disabled rfl, Console.writeError_nil]
    rfl
  | true =>
    rw [logging_verbose, hloading, Console.heard_opened]
    rfl

theorem perform_of_failure (h : Fails o.decode r schema config e)
    (handlers : List (Message → Text)) :
    (perform o r schema config (.silent handlers)).1 =
      ⟨1, [], logged o r schema config ++ (printed (diagnosed o r e)).1,
        (printed (diagnosed o r e)).2⟩ ∧
    (perform o r schema config (.silent handlers)).2.enabled = false := by
  have hrun : run o r schema config (.silent handlers) =
      quit (diagnosed o r e) (Console.left o r schema config handlers) :=
    bind_quit (logging_of_failure h handlers) _
  rw [perform, hrun, quit]
  rcases printed (diagnosed o r e) with ⟨t, - | e'⟩
  · exact ⟨rfl, rfl⟩
  · exact ⟨rfl, rfl⟩

theorem perform_of_loaded (hl : (load o.decode r schema config).outcome = .ok s)
    (ha : asked r s = .ok value) (handlers : List (Message → Text)) :
    (perform o r schema config (.silent handlers)).1 =
      ⟨if (printed (outputs o r s)).2.isNone then 0 else 1, (printed (outputs o r s)).1,
        logged o r schema config, (printed (outputs o r s)).2⟩ ∧
    (perform o r schema config (.silent handlers)).2.enabled = false := by
  have hrun : run o r schema config (.silent handlers) =
      put Console.write (outputs o r s) (Console.left o r schema config handlers) :=
    (bind_ok (logging_of_loaded hl ha handlers)).trans (printing_eq rfl ha)
  rw [perform, hrun, put]
  rcases printed (outputs o r s) with ⟨t, - | e⟩
  · exact ⟨rfl, rfl⟩
  · exact ⟨rfl, rfl⟩

end PropertyFile.Command
