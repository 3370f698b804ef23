import Mathlib.Data.List.Basic
import RustdocIndex.Proofs.Fields
import RustdocIndex.Proofs.Result
import RustdocIndex.Web.Fetch

/-! Runs that keep a log of requests, and downloads that get over outages. -/
namespace RustdocIndex

section

variable {ε ε' σ α β : Type}

/-- What a computation ends with that starts from a log, and the log after it. -/
def runFrom (x : ExceptT ε (StateM σ) α) (s : σ) : Except ε α × σ := x.run.run s

variable {x : ExceptT ε (StateM σ) α} {f : α → ExceptT ε (StateM σ) β} {s t : σ} {a : α} {b : β}
  {e : ε}

theorem runFrom_bind : runFrom (x >>= f) s =
    match runFrom x s with
    | (.ok a, t) => runFrom (f a) t
    | (.error e, t) => (.error e, t) := by
  simp only [runFrom, ExceptT.run_bind, StateT.run_bind]
  rcases x.run.run s with ⟨_ | a, t⟩ <;> rfl

theorem runFrom_bind_of_ok (h : runFrom x s = (.ok a, t)) :
    runFrom (x >>= f) s = runFrom (f a) t := by
  rw [runFrom_bind, h]

theorem runFrom_bind_eq_ok : runFrom (x >>= f) s = (.ok b, t) ↔
    ∃ a u, runFrom x s = (.ok a, u) ∧ runFrom (f a) u = (.ok b, t) := by
  rw [runFrom_bind]
  rcases runFrom x s with ⟨_ | a, u⟩ <;> simp

theorem failsWith_runFrom_bind {P : ε → Prop} : FailsWith P (runFrom (x >>= f) s).1 ↔
    FailsWith P (runFrom x s).1 ∨
      ∃ a t, runFrom x s = (.ok a, t) ∧ FailsWith P (runFrom (f a) t).1 := by
  rw [runFrom_bind]
  rcases runFrom x s with ⟨_ | a, u⟩ <;> simp

/-- A result that needs no request. -/
theorem runFrom_lift (r : Except ε α) (s : σ) :
    runFrom (liftM r : ExceptT ε (StateM σ) α) s = (r, s) := rfl

theorem runFrom_pure (a : α) (s : σ) :
    runFrom (pure a : ExceptT ε (StateM σ) α) s = (.ok a, s) := rfl

theorem runFrom_adapt (g : ε → ε') : runFrom (ExceptT.adapt g x) s =
    ((runFrom x s).1.mapError g, (runFrom x s).2) := rfl

end

namespace Web

variable {limits : Limits} {limit : Int} {server : Server} {url : String} {log : List String}
  {r : Response} {body : Bytes}

theorem flatten_chunks (size : Nat) (body : Bytes) : (chunks size body).flatten = body := by
  fun_induction chunks size body with
  | case1 => rfl
  | case2 b body ih => simp [ih]

theorem chunks_eq_nil {size : Nat} : chunks size body = [] ↔ body = [] := by
  cases body with
  | nil => simp [chunks]
  | cons b body => simp [chunks]

/-- A body is given up exactly if it is too large at the end of a chunk: then it is so at the end of
the last one. -/
theorem collect_eq {received : Nat} {parts : List Bytes} :
    collect limit received parts =
      if parts = [] ∨ ((received + parts.flatten.length : Nat) : Int) ≤ limit
      then some parts.flatten else none := by
  induction parts generalizing received with
  | nil => simp [collect]
  | cons part parts ih =>
    rw [collect, ih]
    have hlength : received + (part :: parts).flatten.length =
        received + part.length + parts.flatten.length := by
      rw [List.flatten_cons, List.length_append, Nat.add_assoc]
    rw [hlength]
    generalize received + part.length = now
    by_cases hnow : limit < (now : Int)
    · have hlarge : ¬ (part :: parts = [] ∨ ((now + parts.flatten.length : Nat) : Int) ≤ limit) := by
        rintro (he | hle)
        · cases he
        · omega
      rw [if_pos hnow, if_neg hlarge]
    · rw [if_neg hnow]
      rcases parts with _ | ⟨next, parts⟩
      · simp [Int.not_lt.mp hnow]
      · simp only [reduceCtorEq, false_or]
        split <;> rfl

/-- The body is whole if it is not too large; how it is cut does not matter. -/
theorem collect_chunks (size : Nat) : collect limit 0 (chunks size body) =
    if body = [] ∨ (body.length : Int) ≤ limit then some body else none := by
  rw [collect_eq, flatten_chunks, Nat.zero_add]
  simp only [chunks_eq_nil]

/-- What becomes of a response, whatever the size of the chunks. -/
theorem receive_eq : receive limits url r =
    if r.status ≠ 200 then .error (.status url r.status)
    else checkDeclared limits url r.declaredLength >>= fun _ =>
      if r.body = [] ∨ (r.body.length : Int) ≤ limits.maxSize then .ok (r.url, r.body)
      else .error (.tooLarge url) := by
  rw [receive, collect_chunks]
  split
  · rfl
  · cases checkDeclared limits url r.declaredLength with
    | error e => rfl
    | ok _ =>
      by_cases h : r.body = [] ∨ (r.body.length : Int) ≤ limits.maxSize
      · simp only [if_pos h]
        rfl
      · simp only [if_neg h]

theorem receive_of_checkDeclared (hs : r.status = 200)
    (hd : checkDeclared limits url r.declaredLength = .ok ()) : receive limits url r =
      if r.body = [] ∨ (r.body.length : Int) ≤ limits.maxSize then .ok (r.url, r.body)
      else .error (.tooLarge url) := by
  rw [receive_eq, if_neg (not_not.mpr hs), hd]
  rfl

theorem receive_eq_ok {finalUrl : String} : receive limits url r = .ok (finalUrl, body) ↔
    r.status = 200 ∧ checkDeclared limits url r.declaredLength = .ok () ∧
      (r.body = [] ∨ (r.body.length : Int) ≤ limits.maxSize) ∧ finalUrl = r.url ∧ body = r.body := by
  constructor
  · intro h
    rw [receive_eq] at h
    split at h
    · cases h
    · next hs =>
      obtain ⟨⟨⟩, hd, h⟩ := bind_eq_ok.mp h
      split at h
      · next hsize =>
        cases h
        exact ⟨not_not.mp hs, hd, hsize, rfl, rfl⟩
      · cases h
  · rintro ⟨hs, hd, hsize, rfl, rfl⟩
    rw [receive_of_checkDeclared hs hd, if_pos hsize]

theorem runFrom_request : runFrom (request server url) log =
    (.ok (server url (log.count url)), log ++ [url]) := rfl

theorem runFrom_attempt_last : runFrom (attempt server limits url 0) log =
    match server url (log.count url) with
    | .ok r => (receive limits url r, log ++ [url])
    | .error o => (.error (.outage o), log ++ [url]) := by
  rw [attempt, runFrom_bind_of_ok runFrom_request]
  cases server url (log.count url) <;> rfl

theorem runFrom_attempt_more (more : Nat) :
    runFrom (attempt server limits url (more + 1)) log =
      match server url (log.count url) with
      | .ok r => (receive limits url r, log ++ [url])
      | .error _ => runFrom (attempt server limits url more) (log ++ [url]) := by
  rw [attempt, runFrom_bind_of_ok runFrom_request]
  cases server url (log.count url) <;> rfl

/-- Behind one more request, the answers are counted from the next one. -/
theorem count_request (log : List String) (url : String) (i : Nat) :
    (log ++ [url]).count url + i = log.count url + (i + 1) := by
  rw [List.count_append, List.count_singleton_self]
  omega

/-- The outages in front of the first answer that arrives, among the first `n` answers. -/
def leadingOutages (answers : Nat → Except Outage Response) : Nat → Nat
  | 0 => 0
  | n + 1 =>
    match answers 0 with
    | .ok _ => 0
    | .error _ => leadingOutages (fun i => answers (i + 1)) n + 1

/-- What a download ends with that takes this answer for its last. -/
def conclude (limits : Limits) (url : String) :
    Except Outage Response → Except WebError (String × Bytes)
  | .ok r => receive limits url r
  | .error o => .error (.outage o)

theorem conclude_eq_ok {answer : Except Outage Response} {finalUrl : String} :
    conclude limits url answer = .ok (finalUrl, body) ↔
      ∃ r, answer = .ok r ∧ receive limits url r = .ok (finalUrl, body) := by
  cases answer <;> simp [conclude]

section

variable {answers : Nat → Except Outage Response} {n : Nat}

theorem leadingOutages_le : leadingOutages answers n ≤ n := by
  induction n generalizing answers with
  | zero => exact Nat.le_refl 0
  | succ n ih =>
    rw [leadingOutages]
    split
    · exact Nat.zero_le _
    · exact Nat.succ_le_succ ih

theorem answers_of_lt_leadingOutages {i : Nat} (h : i < leadingOutages answers n) :
    ∃ o, answers i = .error o := by
  induction n generalizing answers i with
  | zero => exact absurd h (Nat.not_lt_zero i)
  | succ n ih =>
    rw [leadingOutages] at h
    split at h
    · exact absurd h (Nat.not_lt_zero i)
    · next o ho =>
      cases i with
      | zero => exact ⟨o, ho⟩
      | succ i => exact @ih (fun i => answers (i + 1)) i (Nat.lt_of_succ_lt_succ h)

theorem answers_leadingOutages (h : leadingOutages answers n < n) :
    ∃ r, answers (leadingOutages answers n) = .ok r := by
  induction n generalizing answers with
  | zero => exact absurd h (Nat.not_lt_zero _)
  | succ n ih =>
    rw [leadingOutages] at h ⊢
    split at h
    · next r hr => exact ⟨r, hr⟩
    · exact ih (Nat.lt_of_succ_lt_succ h)

theorem leadingOutages_eq {outages : Nat} (hle : outages ≤ n)
    (ho : ∀ i < outages, ∃ o, answers i = .error o) (hr : answers outages = .ok r) :
    leadingOutages answers n = outages := by
  rcases Nat.lt_trichotomy (leadingOutages answers n) outages with hlt | heq | hgt
  · obtain ⟨r', hr'⟩ := answers_leadingOutages (Nat.lt_of_lt_of_le hlt hle)
    obtain ⟨o, hout⟩ := ho _ hlt
    cases hout.symm.trans hr'
  · exact heq
  · obtain ⟨o, hout⟩ := answers_of_lt_leadingOutages hgt
    cases hout.symm.trans hr

/-- The answers to look at are one fewer than those that may be requested, since the last one ends
the download in any case. -/
theorem leadingOutages_succ :
    leadingOutages answers n + 1 = min (n + 1) (1 + leadingOutages answers (n + 1)) := by
  induction n generalizing answers with
  | zero => simp [leadingOutages]
  | succ n ih =>
    rw [leadingOutages, leadingOutages]
    cases answers 0 with
    | ok r => simp
    | error o =>
      simp only
      rw [ih]
      omega

/-- An attempt ends with the first answer that arrives, or with the last outage. -/
theorem runFrom_attempt (more : Nat) (answers : Nat → Except Outage Response)
    (h : ∀ i, answers i = server url (log.count url + i)) :
    runFrom (attempt server limits url more) log =
      (conclude limits url (answers (leadingOutages answers more)),
        log ++ List.replicate (leadingOutages answers more + 1) url) := by
  induction more generalizing log answers with
  | zero =>
    rw [runFrom_attempt_last, leadingOutages, h 0, Nat.add_zero]
    cases server url (log.count url) <;> rfl
  | succ more ih =>
    have hlater : ∀ i, answers (i + 1) = server url ((log ++ [url]).count url + i) := by
      intro i
      rw [h, count_request]
    rw [runFrom_attempt_more, ← Nat.add_zero (log.count url), ← h 0, leadingOutages]
    cases h0 : answers 0 with
    | ok r => simp [h0, conclude]
    | error o =>
      simp only
      rw [ih _ hlater, List.append_assoc, List.singleton_append, ← List.replicate_succ]

theorem runFrom_download : runFrom (download server limits url) log =
    let answers := fun i => server url (log.count url + i)
    let outages := leadingOutages answers (limits.attempts - 1)
    (conclude limits url (answers outages), log ++ List.replicate (outages + 1) url) :=
  runFrom_attempt _ _ fun _ => rfl

/-- All that a download can do: it gets over some outages and takes the next answer for its last. -/
theorem download_cases (server : Server) (limits : Limits) (url : String) (log : List String) :
    ∃ outages ≤ limits.attempts - 1,
      (∀ i < outages, ∃ o, server url (log.count url + i) = .error o) ∧
      runFrom (download server limits url) log =
        (conclude limits url (server url (log.count url + outages)),
          log ++ List.replicate (outages + 1) url) := by
  let answers := fun i => server url (log.count url + i)
  exact ⟨leadingOutages answers (limits.attempts - 1), leadingOutages_le,
    fun i hi => @answers_of_lt_leadingOutages answers _ i hi, runFrom_download⟩

end

end Web

/-- A response that a download takes: it is no refusal, declares no length that is above the limit,
and is not above the limit itself. -/
structure Response.IsTaken (limits : Limits) (r : Response) : Prop where
  status : r.status = 200
  declared (url : String) : Web.checkDeclared limits url r.declaredLength = .ok ()
  size : (r.body.length : Int) ≤ limits.maxSize

theorem Response.IsTaken.receive {limits : Limits} {r : Response} (h : r.IsTaken limits)
    (url : String) : Web.receive limits url r = .ok (r.url, r.body) :=
  Web.receive_eq_ok.mpr ⟨h.status, h.declared url, .inr h.size, rfl, rfl⟩

/-- After the requests of a log, a download of an address gets a response, perhaps after outages
that it gets over. -/
structure Network.Delivers (net : Network) (log : List String) (url : String) (outages : Nat)
    (r : Response) : Prop where
  outages_lt : outages < net.limits.attempts
  outage : ∀ i < outages, ∃ o, net.server url (log.count url + i) = .error o
  answer : net.server url (log.count url + outages) = .ok r
  taken : r.IsTaken net.limits

theorem Network.Delivers.download {net : Network} {log : List String} {url : String}
    {outages : Nat} {r : Response} (h : net.Delivers log url outages r) :
    runFrom (net.download url) log =
      (.ok (r.url, r.body), log ++ List.replicate (outages + 1) url) := by
  have hle : outages ≤ net.limits.attempts - 1 := Nat.le_sub_one_of_lt h.outages_lt
  have hlead := Web.leadingOutages_eq hle h.outage h.answer
  rw [Network.download, Web.runFrom_download]
  simp only [hlead, h.answer, Web.conclude, h.taken.receive]

/-- A server that always answers with the page at an address, if it has one there. -/
def Server.ofPages (pages : Fields String Response) : Server := fun url _ =>
  match Fields.get? url pages with
  | some r => .ok r
  | none => .error .connection

theorem Network.delivers_ofPages {net : Network} {pages : Fields String Response} {url : String}
    {r : Response} (hserver : net.server = Server.ofPages pages) (hr : Fields.get? url pages = some r)
    (htaken : r.IsTaken net.limits) (hattempts : 0 < net.limits.attempts) (log : List String) :
    net.Delivers log url 0 r where
  outages_lt := hattempts
  outage i hi := absurd hi (Nat.not_lt_zero i)
  answer := by rw [hserver, Server.ofPages, hr]
  taken := htaken

end RustdocIndex
