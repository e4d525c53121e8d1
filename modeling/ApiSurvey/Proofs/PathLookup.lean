import ApiSurvey.Proofs.PathText

/-!
# Looking paths up

A path text is looked up step by step. Empty steps and `.` lead nowhere, they only demand that a
directory stands where they are taken. Main statements: the steps that lead nowhere can be dropped,
but for that demand at the end of the text; so a text that ends with the name of an entry denotes
what its normal form denotes, and a chain of names below a place is followed as it stands.
-/

namespace ApiSurvey

/-! ## One step -/

theorem Entry.below?_append (names more : List String) (e : Entry) :
    e.below? (names ++ more) = (e.below? names).bind (Entry.below? more) := by
  induction names generalizing e with
  | nil => rfl
  | cons name names ih =>
      rw [List.cons_append, Entry.below?, Entry.below?]
      cases e.child? name with
      | none => rfl
      | some inner => exact ih inner

namespace FileTree

variable {root : Entry} {links : Nat} {place : List String} {step : String}

/-- The place itself, where a directory stands there. -/
def demandDirectory (root : Entry) (place : List String) : Except PathError (List String) :=
  match root.below? place with
  | some (.directory _) => .ok place
  | some _ => .error .notDirectory
  | none => .error .noEntry

/-- Where one step leads: the number of links that may still be followed, the next place and the
steps to take from there before all others, which are those of a link. -/
def advance (root : Entry) (links : Nat) (place : List String) (step : String) :
    Except PathError (Nat × List String × List String) :=
  match root.below? place with
  | some (.directory entries) =>
      if !isMove step then .ok (links, place, [])
      else if step == ".." then .ok (links, place.dropLast, [])
      else
        match entries.lookup step, links with
        | none, _ => .error (absence step)
        | some (.link _), 0 => .error .tooManyLinks
        | some (.link target), links + 1 =>
            if target.isEmpty then .error .noEntry
            else .ok (links, startOf place target, steps target)
        | some _, links => .ok (links, place ++ [step], [])
  | some _ => .error .notDirectory
  | none => .error .noEntry

theorem eq_of_demandDirectory {next : List String} (h : demandDirectory root place = .ok next) :
    next = place := by
  unfold demandDirectory at h
  split at h
  · exact (Except.ok.inj h).symm
  · cases h
  · cases h

theorem advance_of_demandDirectory_error {e : PathError} (h : demandDirectory root place = .error e) :
    advance root links place step = .error e := by
  unfold demandDirectory at h
  unfold advance
  split at h
  · cases h
  · cases h
    rfl
  · cases h
    rfl

theorem advance_of_idle (hidle : isMove step = false) :
    advance root links place step =
      (demandDirectory root place).bind fun place ↦ .ok (links, place, []) := by
  unfold advance demandDirectory
  cases root.below? place with
  | none => rfl
  | some e => cases e <;> simp [hidle, Except.bind]

/-- A step stays within what was done before: a link is followed, or one step less is left. -/
theorem lt_or_eq_of_advance {next : Nat × List String × List String}
    (h : advance root links place step = .ok next) :
    next.1 < links ∨ next.1 = links ∧ next.2.2 = [] := by
  unfold advance at h
  grind

theorem follow_nil (root : Entry) (links : Nat) (place : List String) :
    follow root links place [] = .ok place := by
  rw [follow]

/-- A look-up takes its first step and goes on from where that leads. -/
theorem follow_cons (root : Entry) (links : Nat) (place : List String) (step : String)
    (rest : List String) :
    follow root links place (step :: rest) =
      (advance root links place step).bind fun next ↦
        follow root next.1 next.2.1 (next.2.2 ++ rest) := by
  have hidle : (!isMove step) = (step == "" || step == ".") := by
    simp [isMove, bne]
  rw [follow, advance, hidle]
  cases root.below? place with
  | none => rfl
  | some e =>
      cases e with
      | file content => rfl
      | link target => rfl
      | directory entries =>
          dsimp only
          by_cases hstay : (step == "" || step == ".") = true
          · rw [if_pos hstay, if_pos hstay]
            rfl
          · rw [if_neg hstay, if_neg hstay]
            by_cases hup : (step == "..") = true
            · rw [if_pos hup, if_pos hup]
              rfl
            · rw [if_neg hup, if_neg hup]
              cases entries.lookup step with
              | none => rfl
              | some inner =>
                  cases inner with
                  | file content => rfl
                  | directory entries => rfl
                  | link target =>
                      cases links with
                      | zero => rfl
                      | succ links =>
                          dsimp only
                          by_cases hempty : target.isEmpty = true
                          · rw [if_pos hempty, if_pos hempty]
                            rfl
                          · rw [if_neg hempty, if_neg hempty]
                            rfl

/-! ## Whole look-ups -/

/-- What holds when nothing is left to do, and with one step more if it holds after that step and
without it, holds of every look-up. -/
theorem follow_induction {P : Nat → List String → List String → Prop} (root : Entry)
    (nil : ∀ links place, P links place [])
    (cons : ∀ links place step rest,
      (∀ next, advance root links place step = .ok next → P next.1 next.2.1 (next.2.2 ++ rest)) →
        P links place rest → P links place (step :: rest))
    (links : Nat) (place todo : List String) : P links place todo :=
  match todo with
  | [] => nil links place
  | step :: rest =>
      cons links place step rest
        (fun next _ ↦ follow_induction root nil cons next.1 next.2.1 (next.2.2 ++ rest))
        (follow_induction root nil cons links place rest)
termination_by (links, todo.length)
decreasing_by
  · rename_i h
    rcases lt_or_eq_of_advance h with hlinks | ⟨hlinks, hsteps⟩
    · exact Prod.Lex.left _ _ hlinks
    · rw [hlinks, hsteps]
      exact Prod.Lex.right _ (by simp)
  · exact Prod.Lex.right _ (by simp)

theorem follow_singleton_of_idle (hidle : isMove step = false) :
    follow root links place [step] = demandDirectory root place := by
  rw [follow_cons, advance_of_idle hidle]
  cases demandDirectory root place with
  | ok next => exact follow_nil root links next
  | error e => rfl

theorem follow_cons_of_idle (hidle : isMove step = false) {rest : List String} (hne : rest ≠ []) :
    follow root links place (step :: rest) = follow root links place rest := by
  rw [follow_cons, advance_of_idle hidle]
  cases hplace : demandDirectory root place with
  | ok next =>
      obtain rfl := eq_of_demandDirectory hplace
      rfl
  | error e =>
      -- The demand is made again by the step that comes next.
      obtain ⟨next, others, rfl⟩ := List.exists_cons_of_ne_nil hne
      rw [follow_cons, advance_of_demandDirectory_error hplace]
      rfl

def endsIdle (todo : List String) : Bool :=
  todo.getLast?.any (!isMove ·)

/-- What steps that lead nowhere demand at the end of a look-up. -/
def arrive (root : Entry) (todo place : List String) : Except PathError (List String) :=
  if endsIdle todo then demandDirectory root place else .ok place

theorem eq_of_arrive {todo next : List String} (h : arrive root todo place = .ok next) :
    next = place := by
  unfold arrive at h
  split at h
  · exact eq_of_demandDirectory h
  · exact (Except.ok.inj h).symm

theorem arrive_of_not_idle {todo : List String} (h : endsIdle todo = false) :
    arrive root todo = .ok := by
  funext place
  rw [arrive, h]
  rfl

theorem arrive_cons_of_move (hmove : isMove step = true) (rest : List String) :
    arrive root (step :: rest) = arrive root rest := by
  funext place
  unfold arrive endsIdle
  cases rest with
  | nil => simp [hmove]
  | cons next rest => rfl

theorem arrive_cons_of_ne_nil {rest : List String} (hne : rest ≠ []) (step : String) :
    arrive root (step :: rest) = arrive root rest := by
  funext place
  unfold arrive endsIdle
  rw [List.getLast?_cons_of_ne_nil hne]

theorem arrive_of_idle {todo : List String} (hne : todo ≠ []) (hidle : todo.filter isMove = []) :
    arrive root todo = demandDirectory root := by
  funext place
  have hlast : todo.getLast? = some (todo.getLast hne) := List.getLast?_eq_getLast_of_ne_nil hne
  have hstep := List.filter_eq_nil_iff.mp hidle (todo.getLast hne) (List.getLast_mem hne)
  simp [arrive, endsIdle, hlast, hstep]

/-- The steps that lead nowhere can be left out, but for their demand at the end. -/
theorem follow_append_filter (root : Entry) (links : Nat) (place before todo : List String) :
    follow root links place (before ++ todo) =
      (follow root links place (before ++ todo.filter isMove)).bind (arrive root todo) := by
  -- The steps of a link come before those that are left, so `before` may be anything.
  suffices h : ∀ links place all before todo, all = before ++ todo →
      follow root links place all =
        (follow root links place (before ++ todo.filter isMove)).bind (arrive root todo) from
    h links place _ before todo rfl
  intro links place all
  induction links, place, all using follow_induction root with
  | nil links place =>
      intro before todo hall
      obtain ⟨rfl, rfl⟩ := List.append_eq_nil_iff.mp hall.symm
      rw [List.filter_nil, List.append_nil, follow_nil]
      rfl
  | cons links place step rest hnext hskip =>
      -- A step that stands on both sides is taken on both sides.
      have hshared : ∀ before todo, rest = before ++ todo →
          follow root links place (step :: rest) =
            (follow root links place (step :: (before ++ todo.filter isMove))).bind
              (arrive root todo) := by
        intro before todo hrest
        rw [follow_cons, follow_cons]
        cases hstep : advance root links place step with
        | error e => rfl
        | ok next =>
            have hafter := hnext next hstep (next.2.2 ++ before) todo
              (by rw [hrest, List.append_assoc])
            rw [List.append_assoc] at hafter
            exact hafter
      intro before todo hall
      cases before with
      | cons first before =>
          obtain ⟨rfl, hrest⟩ := List.cons.inj hall
          exact hshared before todo hrest
      | nil =>
          rw [List.nil_append] at hall
          subst hall
          cases hmove : isMove step with
          | true =>
              rw [List.filter_cons_of_pos hmove, arrive_cons_of_move hmove]
              exact hshared [] rest rfl
          | false =>
              rw [List.filter_cons_of_neg (by simp [hmove])]
              by_cases hrest : rest = []
              · subst hrest
                rw [follow_singleton_of_idle hmove, List.filter_nil, List.append_nil, follow_nil,
                  arrive_of_idle (by simp) (by simp [hmove])]
                rfl
              · rw [follow_cons_of_idle hmove hrest, arrive_cons_of_ne_nil hrest]
                exact hskip [] rest rfl

/-- Steps that can be taken from where others lead can be taken after them. -/
theorem follow_append {todo more mid last : List String}
    (htodo : follow root links place todo = .ok mid)
    (hmore : ∀ links, follow root links mid more = .ok last) :
    follow root links place (todo ++ more) = .ok last := by
  induction links, place, todo using follow_induction root with
  | nil links place =>
      rw [follow_nil] at htodo
      obtain rfl := Except.ok.inj htodo
      exact hmore links
  | cons links place step rest hnext hskip =>
      rw [follow_cons] at htodo
      rw [List.cons_append, follow_cons]
      cases hstep : advance root links place step with
      | error e =>
          rw [hstep] at htodo
          cases htodo
      | ok next =>
          rw [hstep] at htodo
          have hafter := hnext next hstep htodo
          rw [List.append_assoc] at hafter
          exact hafter

/-- A name that an entry of a directory can have. -/
structure IsName (name : String) : Prop where
  move : isMove name = true
  notUp : name ≠ ".."
  noSlash : '/' ∉ name.toList

instance : DecidablePred IsName := fun name ↦
  decidable_of_iff (isMove name = true ∧ name ≠ ".." ∧ '/' ∉ name.toList)
    ⟨fun h ↦ ⟨h.1, h.2.1, h.2.2⟩, fun h ↦ ⟨h.move, h.notUp, h.noSlash⟩⟩

theorem advance_of_child {e : Entry} {name : String} {inner : Entry} (hname : IsName name)
    (hplace : root.below? place = some e) (hchild : e.child? name = some inner)
    (hlink : ∀ target, inner ≠ .link target) :
    advance root links place name = .ok (links, place ++ [name], []) := by
  cases e with
  | file content => cases hchild
  | link target => cases hchild
  | directory entries =>
      have hlookup : entries.lookup name = some inner := hchild
      simp only [advance, hplace, hname.move, hlookup]
      cases inner with
      | link target => exact absurd rfl (hlink target)
      | file content => simp [hname.notUp]
      | directory entries => simp [hname.notUp]

theorem follow_below {e found : Entry} {names : List String} (hnames : ∀ name ∈ names, IsName name)
    (hplace : root.below? place = some e) (hfound : e.below? names = some found)
    (hlink : ∀ target, found ≠ .link target) (links : Nat) :
    follow root links place names = .ok (place ++ names) := by
  induction names generalizing place e with
  | nil => rw [follow_nil, List.append_nil]
  | cons name names ih =>
      rw [Entry.below?] at hfound
      obtain ⟨inner, hchild, hbelow⟩ := Option.bind_eq_some_iff.mp hfound
      have hinner : ∀ target, inner ≠ .link target := by
        rintro target rfl
        cases names with
        | nil => exact hlink target (Option.some.inj hbelow).symm
        | cons next others => simp [Entry.below?, Entry.child?] at hbelow
      have hnext : root.below? (place ++ [name]) = some inner := by
        rw [Entry.below?_append, hplace, Option.bind_some, Entry.below?, hchild]
        rfl
      rw [follow_cons, advance_of_child (hnames name (List.mem_cons_self ..)) hplace hchild hinner]
      have hrest := ih (fun n hn ↦ hnames n (List.mem_cons_of_mem _ hn)) hnext hbelow
      rw [List.append_assoc, List.singleton_append] at hrest
      exact hrest

/-! ## Path texts -/

theorem startOf_eq_of_head? {s s' : String}
    (h : s.toList.head? = some '/' ↔ s'.toList.head? = some '/') (base : List String) :
    startOf base s = startOf base s' := by
  simp only [startOf, beq_iff_eq, h]

theorem startOf_normal (base : List String) (s : String) :
    startOf base (Path.ofString s).toString = startOf base s := by
  apply startOf_eq_of_head?
  rw [Path.head?_eq_slash_iff, Path.head?_eq_slash_iff, Path.rootOf_normal]

theorem steps_ne_nil (s : String) : steps s ≠ [] := by
  rw [steps, Text.pieces_eq_splitOn]
  simp

theorem endsIdle_append (before : List String) {todo : List String} (hne : todo ≠ []) :
    endsIdle (before ++ todo) = endsIdle todo := by
  rw [endsIdle, List.getLast?_append_of_ne_nil _ hne, endsIdle]

theorem endsIdle_of_forall_move {todo : List String} (h : ∀ step ∈ todo, isMove step = true) :
    endsIdle todo = false := by
  unfold endsIdle
  cases hlast : todo.getLast? with
  | none => rfl
  | some step => simp [h step (List.mem_of_getLast? hlast)]

theorem endsIdle_steps_append_of_root {root : String}
    (h : root = "" ∨ root = "/" ∨ root = "//") (text : String) :
    endsIdle (steps (root ++ text)) = endsIdle (steps text) := by
  rcases h with rfl | rfl | rfl
  · rw [String.empty_append]
  · rw [steps_slash_append]
    exact endsIdle_append [""] (steps_ne_nil text)
  · have hsplit : "//" ++ text = "/" ++ ("/" ++ text) := by
      rw [← String.append_assoc]
      rfl
    rw [hsplit, steps_slash_append, steps_slash_append]
    exact endsIdle_append ["", ""] (steps_ne_nil text)

theorem endsIdle_steps_normal (s : String) :
    endsIdle (steps (Path.ofString s).toString) = (Path.components s).isEmpty := by
  rcases Path.toString_ofString s with ⟨-, hparts, htext⟩ | ⟨-, htext⟩
  · rw [htext, hparts, steps_of_notMem (by simp)]
    rfl
  · rw [htext, endsIdle_steps_append_of_root (Path.rootOf_cases s)]
    by_cases hparts : Path.components s = []
    · rw [hparts, String.intercalate_nil, steps_of_notMem (by simp)]
      rfl
    · rw [steps_intercalate hparts fun _ ↦ Path.notMem_of_mem_components,
        endsIdle_of_forall_move fun _ ↦ Path.isMove_of_mem_components]
      simpa using hparts

/-- The look-up of a text takes the steps of its normal form and then makes the demand with which
the text ends. -/
theorem resolve_eq_follow_components (t : FileTree) {path : String} (hne : path ≠ "") :
    t.resolve path =
      (follow t.root linkLimit (startOf t.current path) (Path.components path)).bind
        (arrive t.root (steps path)) := by
  have hfilter := follow_append_filter t.root linkLimit (startOf t.current path) [] (steps path)
  rw [List.nil_append, List.nil_append] at hfilter
  rw [resolve, if_neg (by simpa using hne), hfilter]
  rfl

/-- A text denotes what its normal form denotes, which must be a directory when the text ends with a
step that leads nowhere. -/
theorem resolve_eq_bind_normal (t : FileTree) {path : String} (hne : path ≠ "") :
    t.resolve path =
      (t.resolve (Path.ofString path).toString).bind (arrive t.root (steps path)) := by
  rw [resolve_eq_follow_components t hne,
    resolve_eq_follow_components t (Path.normal_ne_empty path), startOf_normal,
    Path.components_normal]
  by_cases hparts : Path.components path = []
  · have hnormal : arrive t.root (steps (Path.ofString path).toString) =
        demandDirectory t.root := by
      apply arrive_of_idle (steps_ne_nil _)
      rw [← Path.components_eq_filter, Path.components_normal, hparts]
    rw [hnormal, arrive_of_idle (steps_ne_nil path) hparts, hparts, follow_nil]
    change demandDirectory t.root _ = (demandDirectory t.root _).bind (demandDirectory t.root)
    cases hplace : demandDirectory t.root (startOf t.current path) with
    | error e => rfl
    | ok next =>
        obtain rfl := eq_of_demandDirectory hplace
        exact hplace.symm
  · have hnormal : endsIdle (steps (Path.ofString path).toString) = false := by
      rw [endsIdle_steps_normal]
      simpa using hparts
    rw [arrive_of_not_idle hnormal]
    cases follow t.root linkLimit (startOf t.current path) (Path.components path) <;> rfl

theorem ne_empty_of_ends {path : String} (hends : endsIdle (steps path) = false) : path ≠ "" := by
  rintro rfl
  rw [steps_of_notMem (by simp)] at hends
  cases hends

/-- A text that ends with the name of an entry denotes what its normal form denotes. -/
theorem resolve_normal (t : FileTree) {path : String} (hends : endsIdle (steps path) = false) :
    t.resolve (Path.ofString path).toString = t.resolve path := by
  rw [resolve_eq_bind_normal t (ne_empty_of_ends hends), arrive_of_not_idle hends]
  cases t.resolve (Path.ofString path).toString <;> rfl

theorem resolve_of_ends (t : FileTree) {path : String} (hends : endsIdle (steps path) = false) :
    t.resolve path =
      follow t.root linkLimit (startOf t.current path) (Path.components path) := by
  rw [resolve_eq_follow_components t (ne_empty_of_ends hends), arrive_of_not_idle hends]
  cases follow t.root linkLimit (startOf t.current path) (Path.components path) <;> rfl

theorem follow_components_of_resolve {t : FileTree} {path : String} {place : List String}
    (h : t.resolve path = .ok place) :
    follow t.root linkLimit (startOf t.current path) (Path.components path) = .ok place := by
  have hne : path ≠ "" := by
    rintro rfl
    simp [resolve] at h
  rw [resolve_eq_follow_components t hne] at h
  cases hfollow : follow t.root linkLimit (startOf t.current path) (Path.components path) with
  | error e =>
      rw [hfollow] at h
      cases h
  | ok next =>
      rw [hfollow] at h
      have harrive : arrive t.root (steps path) next = .ok place := h
      rw [eq_of_arrive harrive]

end FileTree

end ApiSurvey
