import SlashCommands.Files

/-!
# Files that are written

A file that has been written is there, and what it has is what was written.  `Host.Keeps` says this
of a host; a tree of files does (`Files.host_keeps`), since the way to a file only leads through
directories, and these are left alone.
-/

namespace SlashCommands

/-- Holds of hosts that keep what is written to a file. -/
structure Host.Keeps {σ : Type} (host : Host (StateM σ)) : Prop where
  exists? : ∀ {path content : String} {before after : σ},
    (host.write path content).run before = (.ok (), after) →
      (host.exists? path).run after = (true, after)
  read : ∀ {path content : String} {before after : σ},
    (host.write path content).run before = (.ok (), after) →
      (host.read path).run after = (.ok content, after)

namespace Files

variable {f f' : Files} {path content : String}

/-! ### Places -/

theorem entry?_put_self {place : Place} (h : place.isGiven = false) (entry : FileEntry) :
    Files.entry? (f.put place entry) place = some entry := by
  unfold entry?
  rw [h, if_neg Bool.false_ne_true, put]
  dsimp only
  rw [List.find?_cons, beq_self_eq_true]
  rfl

theorem entry?_put_of_ne {place other : Place} (h : other ≠ place) (entry : FileEntry) :
    Files.entry? (f.put place entry) other = f.entry? other := by
  have hfind : (f.put place entry).entries.find? (·.1 == other) =
      f.entries.find? (·.1 == other) := by
    rw [put]
    dsimp only
    rw [List.find?_cons, beq_eq_false_iff_ne.mpr h.symm, List.find?_filter]
    dsimp only
    refine congrArg (List.find? · f.entries) (funext fun e => ?_)
    rw [Bool.eq_iff_iff, decide_eq_true_iff, and_iff_right_iff_imp, beq_iff_eq, bne_iff_ne]
    exact fun hother heq => h (hother.symm.trans heq)
  unfold entry?
  rw [hfind]

theorem entry?_of_enter {origin target : Place} {name : String}
    (h : f.enter origin name = .ok target) : f.entry? origin = some .directory := by
  unfold enter at h
  split at h
  · cases h
  · cases h
  · next hentry => exact hentry

/-- The way to a place goes through directories only, and does not change with anything else. -/
theorem enter_put {place origin target : Place} {name : String}
    (hplace : f.entry? place ≠ some .directory) (h : f.enter origin name = .ok target)
    (entry : FileEntry) : (f.put place entry).enter origin name = .ok target := by
  have hdirectory := entry?_of_enter h
  have hne : origin ≠ place := by
    rintro rfl
    exact hplace hdirectory
  rw [enter, hdirectory] at h
  rw [enter, entry?_put_of_ne hne, hdirectory, h]

theorem follow_put {place origin target : Place} {names : List String}
    (hplace : f.entry? place ≠ some .directory) (h : f.follow origin names = .ok target)
    (entry : FileEntry) : (f.put place entry).follow origin names = .ok target := by
  induction names generalizing origin with
  | nil => exact h
  | cons name names ih =>
    rw [follow, List.foldlM_cons] at h ⊢
    cases hstep : f.enter origin name with
    | error fault =>
      rw [hstep] at h
      cases h
    | ok next =>
      rw [hstep] at h
      rw [enter_put hplace hstep]
      exact ih h

theorem isGiven_eq_false {place : Place} (h : f.entry? place ≠ some .directory) :
    place.isGiven = false := by
  refine Bool.eq_false_iff.mpr fun hgiven => h ?_
  unfold entry?
  rw [if_pos hgiven]

/-! ### Paths -/

/-- From where a path starts there is a name left, unless the path ends in a slash. -/
theorem exists_pieces_start (f : Files) {path : String} (hne : path.isEmpty = false)
    (hslash : endsInSlash path = false) :
    ∃ front last, Path.pieces (f.start path).2 = front ++ [last] ∧ last.isEmpty = false := by
  have hnil : path.toList ≠ [] := by
    rintro hnil
    rw [String.toList_eq_nil_iff.mp hnil] at hne
    cases hne
  have hlast : path.toList.getLast? ≠ some '/' := beq_eq_false_iff_ne.mp hslash
  unfold start
  split
  · exact ⟨[], ".", by decide +kernel, by decide +kernel⟩
  split
  · next hprefix =>
    obtain ⟨rest, hrest⟩ := List.isPrefixOf_iff_prefix.mp hprefix
    have hlength : f.root.length + 1 = (f.root ++ "/").toList.length := by
      rw [String.length_toList, String.length_append]
      rfl
    have hdrop : (String.ofList (path.toList.drop (f.root.length + 1))).toList = rest := by
      rw [String.toList_ofList, ← hrest, hlength, List.drop_left]
    cases rest with
    | nil =>
      -- the path to the tree with a slash after it
      rw [← hrest, List.append_nil, String.toList_append] at hlast
      exact absurd List.getLast?_concat hlast
    | cons c rest =>
      refine Path.exists_pieces_eq_append ?_ ?_
      · rw [hdrop]
        exact List.cons_ne_nil c rest
      · intro hend
        rw [hdrop] at hend
        rw [← hrest, List.getLast?_append, hend] at hlast
        exact hlast rfl
  split
  · exact Path.exists_pieces_eq_append hnil hlast
  · exact Path.exists_pieces_eq_append hnil hlast

/-- A file is written at a place that is no directory, at the end of a way through directories. -/
theorem exists_of_write (h : f.write path content = .ok f') :
    ∃ start names directory place, f.route path = .ok (start, names) ∧
      f.follow start (Path.dropEmpty names).dropLast = .ok directory ∧
      f.enter directory (if endsInSlash path then "." else
        (Path.dropEmpty names).getLast?.getD ".") = .ok place ∧
      f.entry? place ≠ some .directory ∧ f' = f.put place (.file content) := by
  rw [write] at h
  dsimp only [bind, Except.bind] at h
  split at h
  · cases h
  · next route hroute =>
    split at h
    · cases h
    · next directory hfollow =>
      split at h
      · cases h
      · next place henter =>
        split at h
        · cases h
        · next hplace =>
          cases h
          exact ⟨route.1, route.2, directory, place, hroute, hfollow, henter, hplace, rfl⟩

theorem of_route_eq_ok {route' : Place × List String} (h : f.route path = .ok route') :
    path.isEmpty = false ∧ route' = ((f.start path).1, Path.pieces (f.start path).2) := by
  rw [route] at h
  split at h
  · cases h
  split at h
  · cases h
  · next hempty =>
    split at h
    · cases h
    · cases h
      exact ⟨Bool.eq_false_iff.mpr hempty, rfl⟩

/-- A file whose path ends in a slash is not written: the point leads to a directory. -/
theorem endsInSlash_of_write (h : f.write path content = .ok f') : endsInSlash path = false := by
  obtain ⟨start, names, directory, place, -, -, henter, hplace, -⟩ := exists_of_write h
  refine Bool.eq_false_iff.mpr fun hslash => ?_
  have hdirectory := entry?_of_enter henter
  rw [if_pos hslash, enter, hdirectory] at henter
  cases henter
  exact hplace hdirectory

/-- What has been written is opened. -/
theorem open?_of_write (h : f.write path content = .ok f') :
    f'.open? path = .ok (.file content) := by
  have hslash := endsInSlash_of_write h
  obtain ⟨start, names, directory, place, hroute, hfollow, henter, hplace, rfl⟩ := exists_of_write h
  obtain ⟨hne, hstart⟩ := of_route_eq_ok hroute
  obtain ⟨front, last, hnames, hlast⟩ := exists_pieces_start f hne hslash
  obtain ⟨rfl, rfl⟩ := Prod.mk.inj hstart
  rw [hnames, Path.dropEmpty_append front hlast, List.dropLast_concat] at hfollow
  rw [hnames, Path.dropEmpty_append front hlast, List.getLast?_concat,
    if_neg (Bool.eq_false_iff.mp hslash), Option.getD_some] at henter
  rw [hnames] at hroute
  -- the way to the file is the one it was written by
  have hfront := follow_put hplace hfollow (.file content)
  have hlocate : (f.put place (.file content)).locate path = .ok place := by
    rw [follow] at hfront
    rw [locate, show (f.put place (.file content)).route path = _ from hroute]
    show (f.put place (.file content)).follow _ (front ++ [last]) = _
    rw [follow, List.foldlM_append, hfront]
    show ((f.put place (.file content)).enter directory last).bind pure = _
    rw [enter_put hplace henter]
    rfl
  rw [open?, hlocate]
  dsimp only [bind, Except.bind]
  rw [entry?_put_self (isGiven_eq_false hplace)]

theorem of_run_change {update : Files → Except FileFault Files}
    (h : (change update).run f = (.ok (), f')) : update f = .ok f' := by
  rw [change, StateT.run_bind, StateT.run_get] at h
  dsimp only [bind, pure] at h
  split at h
  · next hupdate =>
    rw [hupdate]
    exact congrArg Except.ok (congrArg Prod.snd h)
  · cases h

/-- A tree keeps what is written. -/
theorem host_keeps (home : String) : (host home).Keeps where
  exists? {path content before after} h := by
    have hopen := open?_of_write (of_run_change h)
    show (after.exists? path, after) = _
    rw [Files.exists?, hopen]
  read {path content before after} h := by
    have hopen := open?_of_write (of_run_change h)
    show (after.read path, after) = _
    rw [Files.read, hopen]
    rfl

end Files

end SlashCommands
