/-
**Routing in place.**

A run works on one set of tables: it looks into them to see what is free, and writes into them in the middle
of the search for a pipe, as soon as it has found one.  Serving by searching first and binding afterwards
hides where that happens.  Here the tables change while the search goes on.  Encoders are tried one after the
other on whatever the tables are by then, and a failure leaves the tables as they are at that moment.  It
turns out that they change only where a search ends well.  So an encoder that was tried in vain leaves
nothing behind, neither does a connector that cannot be served, and the run is the same.

What a search finds is new in every table: a display is not bound twice, an encoder or a CRTC that is taken
is passed over, for the current ones as for all others.  Hence no entry ever takes the place of another one,
each connector adds one entry to each table, and the tables go on agreeing with each other.  Which displays
are planned for the connectors plays no part in this.

Main definitions:

* `Scanout.Routing.Work` — work on the tables that may fail and takes nothing back;
* `Scanout.Routing.driveThrough`, `Scanout.Routing.search`, `Scanout.Routing.serveInPlace`,
  `Scanout.Routing.serveUpTo` — trying one encoder, trying several in turn, serving one connector and
  serving the first ones, all in place;
* `Scanout.Routing.Bindings.Fresh` — a display and what is to drive it are not bound yet;
* `Scanout.Routing.Bindings.Consistent` — the tables agree on the displays of the first connectors.

Main results:

* `Scanout.Routing.search_append_of_noneFree` — a search goes on as if encoders that were tried in vain had
  not been there;
* `Scanout.Routing.on_serveInPlace` — **serving in place is to search and then to bind what was found**;
* `Scanout.Routing.serve_eq_on_serveUpTo` — serving connectors is serving them in place;
* `Scanout.Routing.fresh_of_findPipe` — a search finds only what is not bound yet;
* `Scanout.Routing.Bindings.Consistent.serve` — serving the next connector keeps the tables consistent;
* `Scanout.Routing.assign_keeps_consistent` — **between two connectors the tables are consistent**, and
  what fails leaves them as they were.
-/

import Scanout.Proofs.Routing.Greedy

set_option relaxedAutoImplicit false
set_option autoImplicit false

namespace Scanout

namespace Routing

/-! ### Work on the tables -/

/-- Work on the tables that may fail; what it bound before stays bound. -/
abbrev Work (α : Type) : Type := ExceptT RoutingError (StateM Bindings) α

namespace Work

variable {α β : Type}

/-- How work on some tables ends, and the tables afterwards. -/
def on (x : Work α) (b : Bindings) : Except RoutingError α × Bindings := x.run.run b

theorem on_bind (x : Work α) (f : α → Work β) (b : Bindings) :
    (x >>= f).on b = match x.on b with
      | (.ok a, b') => (f a).on b'
      | (.error failure, b') => (.error failure, b') := by
  simp only [on, ExceptT.run_bind, StateT.run_bind]
  rcases x.run.run b with ⟨_ | _, b'⟩
  · rfl
  · rfl

theorem on_get_bind (f : Bindings → Work α) (b : Bindings) : (get >>= f).on b = (f b).on b := rfl

end Work

/-- Drives a display through the encoder at a position if that has a free CRTC, and says whether it had. -/
def driveThrough (p : Problem) (d : DisplayId) (connector encoder : Nat) : Work Bool := do
  match tryEncoder p (← get) d encoder with
  | .bound crtc =>
    modify (·.bind d ⟨connector, encoder, crtc⟩)
    return true
  | .noneFree => return false
  | .failed failure => throw failure

/-- Drives a display through the first of some encoders that has a free CRTC.  Encoders that cannot feed the
connector or are taken by now are skipped, and so is the current one, which was tried before. -/
def search (p : Problem) (c : Connector) (d : DisplayId) (connector : Nat) (current : Option Nat) :
    List (Encoder × Nat) → Work Unit
  | [] => throw (.noSuitableEncoder c.id d)
  | (e, encoder) :: rest => do
    if some encoder == current || !c.supports e || (← get).hasEncoder encoder then
      search p c d connector current rest
    else if ← driveThrough p d connector encoder then
      return ()
    else
      search p c d connector current rest

/-- Serves the connector at a position. -/
def serveInPlace (p : Problem) (planned : Table Nat DisplayId) (connector : Nat) : Work Unit :=
  match p.connectors[connector]?, planned.find? connector with
  | some c, some d => do
    match currentEncoder? p (← get) c with
    | none => search p c d connector none p.encoders.zipIdx
    | some encoder =>
      if ← driveThrough p d connector encoder then
        return ()
      else
        search p c d connector (some encoder) p.encoders.zipIdx
  | _, _ => throw .bindingLost

/-- Serves the first `m` connectors, one after the other. -/
def serveUpTo (p : Problem) (planned : Table Nat DisplayId) : Nat → Work Unit
  | 0 => return ()
  | m + 1 => do
    serveUpTo p planned m
    serveInPlace p planned m

variable {p : Problem} {planned : Table Nat DisplayId} {m : Nat} {b b' : Bindings} {d : DisplayId}
  {pipe : Pipe}

/-! ### Trying encoders -/

theorem on_driveThrough (d : DisplayId) (connector encoder : Nat) :
    (driveThrough p d connector encoder).on b = match tryEncoder p b d encoder with
      | .bound crtc => (.ok true, b.bind d ⟨connector, encoder, crtc⟩)
      | .noneFree => (.ok false, b)
      | .failed failure => (.error failure, b) := by
  rw [driveThrough, Work.on_get_bind]
  cases tryEncoder p b d encoder with
  | bound crtc => rfl
  | noneFree => rfl
  | failed failure => rfl

theorem on_search_cons (c : Connector) (d : DisplayId) (connector : Nat) (current : Option Nat)
    (e : Encoder) (encoder : Nat) (rest : List (Encoder × Nat)) :
    (search p c d connector current ((e, encoder) :: rest)).on b =
      if some encoder == current || !c.supports e || b.hasEncoder encoder then
        (search p c d connector current rest).on b
      else match tryEncoder p b d encoder with
        | .bound crtc => (.ok (), b.bind d ⟨connector, encoder, crtc⟩)
        | .noneFree => (search p c d connector current rest).on b
        | .failed failure => (.error failure, b) := by
  rw [search, Work.on_get_bind]
  split
  · rfl
  · rw [Work.on_bind, on_driveThrough]
    cases tryEncoder p b d encoder with
    | bound crtc => rfl
    | noneFree => rfl
    | failed failure => rfl

/-- A search goes on as if encoders that were tried in vain had not been there. -/
theorem search_append_of_noneFree {tried : List (Encoder × Nat)}
    (h : ∀ x ∈ tried, tryEncoder p b d x.2 = .noneFree) (c : Connector) (connector : Nat)
    (current : Option Nat) (rest : List (Encoder × Nat)) :
    (search p c d connector current (tried ++ rest)).on b =
      (search p c d connector current rest).on b := by
  induction tried with
  | nil => rfl
  | cons x tried ih =>
      obtain ⟨e, i⟩ := x
      have hx : tryEncoder p b d i = .noneFree := h (e, i) List.mem_cons_self
      rw [List.cons_append, on_search_cons, hx, ih fun y hy => h y (List.mem_cons_of_mem _ hy)]
      -- skipped or tried in vain, it is the same
      exact ite_self _

/-! ### Searching and binding -/

/-- The end of a search: what it found is bound, and if it found nothing all is as before. -/
def Bindings.commit (b : Bindings) :
    Except RoutingError (DisplayId × Pipe) → Except RoutingError Unit × Bindings
  | .ok (d, pipe) => (.ok (), b.bind d pipe)
  | .error failure => (.error failure, b)

theorem Bindings.commit_eq_ok_iff {found : Except RoutingError (DisplayId × Pipe)} :
    b.commit found = (.ok (), b') ↔ ∃ g, found = .ok g ∧ b.bind g.1 g.2 = b' := by
  cases found <;> simp [commit]

theorem Bindings.commit_eq_error_iff {found : Except RoutingError (DisplayId × Pipe)}
    {failure : RoutingError} :
    b.commit found = (.error failure, b') ↔ found = .error failure ∧ b = b' := by
  cases found <;> simp [commit]

/-- A search skips what the search on fixed tables leaves out: until it ends, the tables that it looks into
are those it started from. -/
theorem on_search (c : Connector) (d : DisplayId) (connector : Nat) (current : Option Nat)
    (l : List (Encoder × Nat)) :
    (search p c d connector current l).on b =
      b.commit ((firstFit p b d (.noSuitableEncoder c.id d) ((l.filter fun (e, i) =>
        some i != current && c.supports e && !b.hasEncoder i).map (·.2))).map fun (encoder, crtc) =>
          (d, ⟨connector, encoder, crtc⟩)) := by
  induction l with
  | nil => rfl
  | cons x l ih =>
      obtain ⟨e, i⟩ := x
      have hskip : (some i == current || !c.supports e || b.hasEncoder i) =
          !(some i != current && c.supports e && !b.hasEncoder i) := by
        simp [bne]
      rw [on_search_cons, hskip]
      cases htry : some i != current && c.supports e && !b.hasEncoder i with
      | false =>
          rw [List.filter_cons_of_neg (by simp [htry]), ← ih]
          rfl
      | true =>
          rw [List.filter_cons_of_pos (by simpa using htry), List.map_cons, firstFit]
          cases tryEncoder p b d i with
          | bound crtc => rfl
          | noneFree => exact ih
          | failed failure => rfl

theorem findPipe_eq_map {connector : Nat} {c : Connector} (hc : p.connectors[connector]? = some c)
    (hd : planned.find? connector = some d) :
    findPipe p planned b connector =
      (firstFit p b d (.noSuitableEncoder c.id d)
        ((currentEncoder? p b c).toList ++ otherEncoders p b c)).map fun (encoder, crtc) =>
          (d, ⟨connector, encoder, crtc⟩) := by
  simp only [findPipe, hc, hd]
  cases firstFit p b d (.noSuitableEncoder c.id d)
      ((currentEncoder? p b c).toList ++ otherEncoders p b c) with
  | ok x => rfl
  | error failure => rfl

/-- **Serving in place is to search and then to bind what was found.** -/
theorem on_serveInPlace (p : Problem) (planned : Table Nat DisplayId) (connector : Nat) (b : Bindings) :
    (serveInPlace p planned connector).on b = b.commit (findPipe p planned b connector) := by
  cases hc : p.connectors[connector]? with
  | none =>
      simp only [serveInPlace, findPipe, hc]
      rfl
  | some c =>
      cases hd : planned.find? connector with
      | none =>
          simp only [serveInPlace, findPipe, hc, hd]
          rfl
      | some d =>
          rw [findPipe_eq_map hc hd, otherEncoders]
          simp only [serveInPlace, hc, hd, Work.on_get_bind]
          cases currentEncoder? p b c with
          | none => exact on_search c d connector none p.encoders.zipIdx
          | some i =>
              simp only [Work.on_bind, on_driveThrough, Option.toList_some, List.singleton_append,
                firstFit]
              cases tryEncoder p b d i with
              | bound crtc => rfl
              | noneFree => exact on_search c d connector (some i) p.encoders.zipIdx
              | failed failure => rfl

/-- A connector that cannot be served leaves the tables as they were. -/
theorem eq_of_on_serveInPlace {connector : Nat} {failure : RoutingError}
    (h : (serveInPlace p planned connector).on b = (.error failure, b')) : b' = b := by
  rw [on_serveInPlace, Bindings.commit_eq_error_iff] at h
  exact h.2.symm

theorem serve_concat (l : List Nat) (connector : Nat) : ∀ b : Bindings,
    serve p planned (l ++ [connector]) b = serve p planned l b >>= serve p planned [connector] := by
  induction l with
  | nil => exact fun _ => rfl
  | cons i l ih =>
      intro b
      rw [List.cons_append, serve, serve]
      cases findPipe p planned b i with
      | error failure => rfl
      | ok g => exact ih _

/-- Serving connectors is serving them in place. -/
theorem serve_eq_on_serveUpTo (p : Problem) (planned : Table Nat DisplayId) (m : Nat) :
    serve p planned (List.range m) .none = match (serveUpTo p planned m).on .none with
      | (.ok (), b) => .ok b
      | (.error failure, _) => .error failure := by
  induction m with
  | zero => rfl
  | succ m ih =>
      rw [List.range_succ, serve_concat, ih, serveUpTo, Work.on_bind]
      rcases (serveUpTo p planned m).on .none with ⟨failure | _, b⟩
      · rfl
      · simp only [on_serveInPlace]
        change serve p planned [m] b = _
        rw [serve]
        cases findPipe p planned b m with
        | ok g => rfl
        | error failure => rfl

/-! ### What a search finds -/

/-- Neither a display nor the encoder and the CRTC that are to drive it are bound. -/
structure Bindings.Fresh (b : Bindings) (d : DisplayId) (pipe : Pipe) : Prop where
  display : b.displayCrtcs.contains d = false
  encoder : b.hasEncoder pipe.encoder = false
  crtc : b.hasCrtc pipe.crtc = false

theorem free_of_tryEncoder {i k : Nat} (h : tryEncoder p b d i = .bound k) :
    b.displayCrtcs.contains d = false ∧ b.hasCrtc k = false := by
  cases hd : b.displayCrtcs.contains d with
  | true => simp [tryEncoder, hd] at h
  | false =>
      cases he : p.encoders[i]? with
      | none => simp [tryEncoder, hd, he] at h
      | some e =>
          rw [tryEncoder_eq hd he] at h
          cases hfree : (p.crtcCandidates e).find? (!b.hasCrtc ·) with
          | none =>
              rw [hfree] at h
              cases h
          | some k' =>
              rw [hfree] at h
              cases h
              exact ⟨rfl, by simpa using List.find?_some hfree⟩

theorem of_firstFit {failure : RoutingError} {l : List Nat} {i k : Nat}
    (h : firstFit p b d failure l = .ok (i, k)) : i ∈ l ∧ tryEncoder p b d i = .bound k := by
  induction l with
  | nil => cases h
  | cons j l ih =>
      rw [firstFit] at h
      cases htry : tryEncoder p b d j with
      | bound k' =>
          rw [htry] at h
          cases h
          exact ⟨List.mem_cons_self, htry⟩
      | noneFree =>
          rw [htry] at h
          obtain ⟨hi, hk⟩ := ih h
          exact ⟨List.mem_cons_of_mem j hi, hk⟩
      | failed e =>
          rw [htry] at h
          cases h

/-- **A search finds only what is not bound yet**, for the display that is planned. -/
theorem fresh_of_findPipe {connector : Nat} (h : findPipe p planned b connector = .ok (d, pipe)) :
    planned.find? connector = some d ∧ pipe.connector = connector ∧ b.Fresh d pipe := by
  cases hc : p.connectors[connector]? with
  | none => simp [findPipe, hc] at h
  | some c =>
      cases hd : planned.find? connector with
      | none => simp [findPipe, hc, hd] at h
      | some d' =>
          rw [findPipe_eq_map hc hd] at h
          cases hfit : firstFit p b d' (.noSuitableEncoder c.id d')
              ((currentEncoder? p b c).toList ++ otherEncoders p b c) with
          | error failure =>
              rw [hfit] at h
              cases h
          | ok x =>
              rw [hfit] at h
              cases h
              obtain ⟨hi, hk⟩ := of_firstFit hfit
              obtain ⟨hdisplay, hcrtc⟩ := free_of_tryEncoder hk
              -- the current encoder is tried only if it is free, as the others are
              rw [toList_append_otherEncoders] at hi
              have hencoder : b.hasEncoder x.1 = false := by simpa using (List.mem_filter.1 hi).2
              exact ⟨rfl, rfl, hdisplay, hencoder, hcrtc⟩

/-! ### Consistent tables -/

/-- The tables agree with each other and with the plan on the displays of the first `m` connectors, and have
no others. -/
structure Bindings.Consistent (b : Bindings) (planned : Table Nat DisplayId) (m : Nat) : Prop where
  displayConnectors : b.displayConnectors.Holds m
  displayCrtcs : b.displayCrtcs.Holds m
  crtcEncoders : b.crtcEncoders.Holds m
  encoderDisplays : b.encoderDisplays.Holds m
  /-- The displays with a connector are those that are planned for the first `m` ones. -/
  connected : ∀ d, b.displayConnectors.contains d = true ↔ ∃ i < m, planned.find? i = some d
  /-- So are the displays with a CRTC. -/
  driven : ∀ d, b.displayCrtcs.contains d = true ↔ ∃ i < m, planned.find? i = some d
  /-- From the display that is planned for a connector the tables lead to a CRTC, on to an encoder and back to
  the display, and from there to the connector. -/
  circular : ∀ i < m, ∃ d crtc encoder, planned.find? i = some d ∧
    b.displayCrtcs.find? d = some crtc ∧ b.crtcEncoders.find? crtc = some encoder ∧
    b.encoderDisplays.find? encoder = some d ∧ b.displayConnectors.find? d = some i

namespace Bindings

theorem consistent_none (planned : Table Nat DisplayId) : none.Consistent planned 0 where
  displayConnectors := Table.holds_empty
  displayCrtcs := Table.holds_empty
  crtcEncoders := Table.holds_empty
  encoderDisplays := Table.holds_empty
  connected := fun d => by simp [none, Table.contains]
  driven := fun d => by simp [none, Table.contains]
  circular := fun i hi => absurd hi (Nat.not_lt_zero i)

/-- Binding what is not bound yet keeps the tables consistent. -/
theorem Consistent.bind (h : b.Consistent planned m) (hd : planned.find? m = some d)
    (hm : pipe.connector = m) (hfresh : b.Fresh d pipe) : (b.bind d pipe).Consistent planned (m + 1) := by
  have hunbound : b.displayConnectors.contains d = false := by
    rw [Bool.eq_false_iff, ne_eq, h.connected, ← h.driven, hfresh.display]
    exact Bool.false_ne_true
  have hplanned : ∀ d', (∃ i < m + 1, planned.find? i = some d') ↔
      d' = d ∨ ∃ i < m, planned.find? i = some d' := by
    intro d'
    rw [Nat.exists_lt_succ_right, or_comm, hd, Option.some.injEq, @eq_comm _ d]
  constructor
  case displayConnectors => exact h.displayConnectors.insert hunbound
  case displayCrtcs => exact h.displayCrtcs.insert hfresh.display
  case crtcEncoders => exact h.crtcEncoders.insert hfresh.crtc
  case encoderDisplays => exact h.encoderDisplays.insert hfresh.encoder
  case connected =>
      intro d'
      rw [hplanned, ← h.connected]
      exact Table.contains_insert
  case driven =>
      intro d'
      rw [hplanned, ← h.driven]
      exact Table.contains_insert
  case circular =>
      intro i hi
      rcases Nat.lt_succ_iff_lt_or_eq.1 hi with hi | rfl
      · obtain ⟨d', k, e, hd', hk, he, hback, hconnector⟩ := h.circular i hi
        refine ⟨d', k, e, hd', ?_, ?_, ?_, ?_⟩
        · exact Table.find?_insert_of_find? hk hfresh.display
        · exact Table.find?_insert_of_find? he hfresh.crtc
        · exact Table.find?_insert_of_find? hback hfresh.encoder
        · exact Table.find?_insert_of_find? hconnector hunbound
      · refine ⟨d, pipe.crtc, pipe.encoder, hd, ?_, ?_, ?_, ?_⟩
        · exact Table.find?_insert_self ..
        · exact Table.find?_insert_self ..
        · exact Table.find?_insert_self ..
        · rw [← hm]
          exact Table.find?_insert_self ..

/-- **Serving the next connector keeps the tables consistent.** -/
theorem Consistent.serve (h : b.Consistent planned m)
    (hserved : (serveInPlace p planned m).on b = (.ok (), b')) : b'.Consistent planned (m + 1) := by
  rw [on_serveInPlace, commit_eq_ok_iff] at hserved
  obtain ⟨⟨d, pipe⟩, hfound, rfl⟩ := hserved
  obtain ⟨hd, hm, hfresh⟩ := fresh_of_findPipe hfound
  exact h.bind hd hm hfresh

end Bindings

/-! ### Whole runs -/

/-- Either the first connectors are served and the tables are consistent, or one of them cannot be served and
the tables stay those of the connectors before it. -/
theorem serveUpTo_cases (p : Problem) (planned : Table Nat DisplayId) (m : Nat) :
    match (serveUpTo p planned m).on .none with
    | (.ok (), b) => b.Consistent planned m
    | (.error failure, b) => ∃ i < m, (serveUpTo p planned i).on .none = (.ok (), b) ∧
        (serveInPlace p planned i).on b = (.error failure, b) := by
  induction m with
  | zero => exact Bindings.consistent_none planned
  | succ m ih =>
      rw [serveUpTo, Work.on_bind]
      cases hbefore : (serveUpTo p planned m).on .none with
      | mk outcome b =>
          rw [hbefore] at ih
          cases outcome with
          | error failure =>
              obtain ⟨i, hi, hstop⟩ := ih
              exact ⟨i, by omega, hstop⟩
          | ok =>
              change match (serveInPlace p planned m).on b with
                | (.ok (), b') => b'.Consistent planned (m + 1)
                | (.error failure, b') => ∃ i < m + 1, (serveUpTo p planned i).on .none = (.ok (), b') ∧
                    (serveInPlace p planned i).on b' = (.error failure, b')
              cases hnext : (serveInPlace p planned m).on b with
              | mk outcome b' =>
                  cases outcome with
                  | ok => exact ih.serve hnext
                  | error failure =>
                      obtain rfl := eq_of_on_serveInPlace hnext
                      exact ⟨m, by omega, hbefore, hnext⟩

/-- **Between two connectors the tables are consistent.**  A run is a run in place; after any number of
connectors the tables have exactly the displays of these, or one of them could not be served and the tables
are still those that were there before it.  An encoder that is tried in vain leaves the tables alone as well,
and the search goes on as if it had not been there. -/
theorem assign_keeps_consistent (p : Problem) (first : DisplayId) :
    (∀ planned next, plan p first = .ok (planned, next) →
      assign p first = match (serveUpTo p planned p.connectors.length).on .none with
        | (.ok (), b) => finish b next
        | (.error failure, _) => .error failure) ∧
    (∀ planned m, match (serveUpTo p planned m).on .none with
      | (.ok (), b) => b.Consistent planned m
      | (.error failure, b) => ∃ i < m, (serveUpTo p planned i).on .none = (.ok (), b) ∧
          (serveInPlace p planned i).on b = (.error failure, b)) ∧
    (∀ planned connector b b' failure,
      (serveInPlace p planned connector).on b = (.error failure, b') → b' = b) ∧
    (∀ b d connector encoder, tryEncoder p b d encoder = .noneFree →
      (driveThrough p d connector encoder).on b = (.ok false, b)) ∧
    ∀ b d tried, (∀ x ∈ tried, tryEncoder p b d x.2 = .noneFree) → ∀ c connector current rest,
      (search p c d connector current (tried ++ rest)).on b =
        (search p c d connector current rest).on b := by
  refine ⟨?_, serveUpTo_cases p, fun _ _ _ _ _ h => eq_of_on_serveInPlace h, ?_,
    fun _ _ _ h => search_append_of_noneFree h⟩
  · intro planned next hplan
    have hassign : assign p first =
        serve p planned (List.range p.connectors.length) .none >>= fun b => finish b next := by
      rw [assign, hplan]
      rfl
    rw [hassign, serve_eq_on_serveUpTo]
    rcases (serveUpTo p planned p.connectors.length).on .none with ⟨failure | _, b⟩
    · rfl
    · rfl
  · intro b d connector encoder h
    rw [on_driveThrough, h]

/-- Two screens as in `contended` and a third one, which is connected to encoder 31 and to nothing else. -/
def crowded : Problem :=
  { contended with
    connectors := contended.connectors ++ [⟨42, 2, .displayPort, 2, .connected, some 31, [31], 0⟩] }

/-- The second screen is served after encoder 31 was tried in vain, the third one is not served at all, and
the run fails with the displays of the first two in the tables. -/
theorem crowded_keeps_consistent : ∃ planned next b₁ b₂, plan crowded .zero = .ok (planned, next) ∧
    (serveUpTo crowded planned 1).on .none = (.ok (), b₁) ∧ tryEncoder crowded b₁ ⟨1⟩ 1 = .noneFree ∧
    (driveThrough crowded ⟨1⟩ 1 1).on b₁ = (.ok false, b₁) ∧
    (serveUpTo crowded planned 2).on .none = (.ok (), b₂) ∧ b₂.Consistent planned 2 ∧
    b₂.crtcEncoders.entries = [(0, 0), (1, 2)] ∧
    (serveUpTo crowded planned 3).on .none = (.error (.noSuitableEncoder 42 ⟨2⟩), b₂) ∧
    assign crowded .zero = .error (.noSuitableEncoder 42 ⟨2⟩) := by
  have horder : displayOrder crowded.connectors = [0, 1, 2] := by
    rw [displayOrder, List.mergeSort_of_pairwise (by decide)]
    rfl
  have hplan : plan crowded .zero = .ok (⟨[(0, ⟨0⟩), (1, ⟨1⟩), (2, ⟨2⟩)]⟩, ⟨3⟩) := by
    rw [plan, horder]
    rfl
  have hsecond : (serveUpTo crowded ⟨[(0, ⟨0⟩), (1, ⟨1⟩), (2, ⟨2⟩)]⟩ 2).on .none =
      (.ok (), .ofGrants [(⟨0⟩, ⟨0, 0, 0⟩), (⟨1⟩, ⟨1, 2, 1⟩)]) := rfl
  have hvain : tryEncoder crowded (.ofGrants [(⟨0⟩, ⟨0, 0, 0⟩)]) ⟨1⟩ 1 = .noneFree := rfl
  obtain ⟨hrun, hbetween, -, hretry, -⟩ := assign_keeps_consistent crowded .zero
  have hconsistent := hbetween ⟨[(0, ⟨0⟩), (1, ⟨1⟩), (2, ⟨2⟩)]⟩ 2
  rw [hsecond] at hconsistent
  exact ⟨_, _, _, _, hplan, rfl, hvain, hretry _ _ 1 1 hvain, hsecond, hconsistent, rfl, rfl,
    hrun _ _ hplan⟩

end Routing

end Scanout
