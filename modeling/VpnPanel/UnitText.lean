import VpnPanel.SystemdUnit
import VpnPanel.Lib.UnitConf
import Mathlib.Data.Bool.AllAny

/-!
# VpnPanel.UnitText

The unit file of a config as systemd reads it.

`render_unit` puts the name of the config into the line of the description as
it is, blanks around it aside.  `asTemplate_iff`: the file has the directives
of the template, and no others, exactly when what the name adds to its line is
ignored by systemd, and the command is one line.
-/

namespace VpnPanel

open UnitConf (Event Joiner readLines parseLine parseLines isBlank strip eolOf endsEscaped)

namespace UnitFile

/-- What `ExecStart` is to be: the binary with the path of its config. -/
def execStart (u : UnitFile) : String :=
  match u.profile with
  | .hysteria2 => u.binary ++ " server -c " ++ u.configPath.render
  | _ => u.binary ++ " run -config " ++ u.configPath.render

/-- The directives of the template. -/
def directives (u : UnitFile) (description : String) : List Event :=
  [.header "Unit", .assignment "Description" description,
    .assignment "After" "network-online.target", .assignment "Wants" "network-online.target",
    .header "Service", .assignment "Type" "simple", .assignment "ExecStart" u.execStart,
    .assignment "LimitNOFILE" "1048576", .header "Install",
    .assignment "WantedBy" "multi-user.target"]

/-- The text has the directives of the template and no others. -/
def AsTemplate (u : UnitFile) : Prop :=
  ∃ description, UnitConf.parse u.render = some (u.directives description)

/-- The line of the description. -/
def descriptionText (u : UnitFile) : List Char :=
  ("Description=VPN " ++ u.description ++ " (" ++ u.profile.value ++ ")").toList

/-- The lines that the description makes, joined. -/
def joined (u : UnitFile) : Joiner := (readLines [] [] u.descriptionText).foldl Joiner.step {}

/-- The description is one directive: no line of it is left open that has more
than blanks, and its other lines are blank or have neither an equals sign nor
the bracket of a section. -/
structure OneDirective (u : UnitFile) : Prop where
  closed : ∀ p, u.joined.pending = some p → ∀ c ∈ p, isBlank c = true
  ignored : ∀ l ∈ u.joined.done.reverse.tail,
    strip l = [] ∨ '=' ∉ strip l ∧ (strip l).head? ≠ some '['

/-- The command is one line, without blanks around it or a backslash at its
end. -/
structure PlainCommand (u : UnitFile) : Prop where
  oneLine : ∀ c ∈ u.execStart.toList, eolOf c = none
  complete : endsEscaped u.execStart.toList = false
  stripped : strip u.execStart.toList = u.execStart.toList

end UnitFile

section

variable {u : UnitFile}

/-! ## its lines -/

def afterLine : List Char := "After=network-online.target".toList

def wantsLine : List Char := "Wants=network-online.target".toList

def typeLine : List Char := "Type=simple".toList

def limitLine : List Char := "LimitNOFILE=1048576".toList

def wantedByLine : List Char := "WantedBy=multi-user.target".toList

def unitLine : List Char := "[Unit]".toList

def serviceLine : List Char := "[Service]".toList

def installLine : List Char := "[Install]".toList

/-- The line of the command. -/
def UnitFile.execLine (u : UnitFile) : List Char := "ExecStart".toList ++ '=' :: u.execStart.toList

theorem render_eq (u : UnitFile) :
    u.render.toList = unitLine ++ '\n' :: (u.descriptionText ++ '\n' :: (afterLine ++ '\n' ::
      (wantsLine ++ '\n' :: ([] ++ '\n' :: (serviceLine ++ '\n' :: (typeLine ++ '\n' ::
        (u.execLine ++ '\n' :: (limitLine ++ '\n' :: ([] ++ '\n' :: (installLine ++ '\n' ::
          (wantedByLine ++ '\n' :: []))))))))))) := by
  have hunit : "[Unit]\n".toList = unitLine ++ ['\n'] := by decide
  have hafter : "After=network-online.target\n".toList = afterLine ++ ['\n'] := by decide
  have hwants : "Wants=network-online.target\n".toList = wantsLine ++ ['\n'] := by decide
  have hblank : "\n".toList = ['\n'] := by decide
  have hservice : "[Service]\n".toList = serviceLine ++ ['\n'] := by decide
  have htype : "Type=simple\n".toList = typeLine ++ ['\n'] := by decide
  have hlimit : "LimitNOFILE=1048576\n".toList = limitLine ++ ['\n'] := by decide
  have hinstall : "[Install]\n".toList = installLine ++ ['\n'] := by decide
  have hwantedBy : "WantedBy=multi-user.target\n".toList = wantedByLine ++ ['\n'] := by decide
  have hclose : ")\n".toList = ")".toList ++ ['\n'] := by decide
  have hexec : "ExecStart=".toList = "ExecStart".toList ++ ['='] := by decide
  unfold UnitFile.render UnitFile.descriptionText UnitFile.execLine UnitFile.execStart
  cases u.profile <;> simp only [String.toList_append, hunit, hafter, hwants, hblank, hservice,
    htype, hlimit, hinstall, hwantedBy, hclose, hexec, List.append_assoc, List.cons_append,
    List.nil_append, -String.reduceToList]

theorem descriptionText_eq_concat (u : UnitFile) : ∃ init, u.descriptionText = init ++ [')'] := by
  refine ⟨("Description=VPN " ++ u.description ++ " (" ++ u.profile.value).toList, ?_⟩
  rw [UnitFile.descriptionText, String.toList_append]
  rfl

/-- It begins with its key. -/
theorem descriptionText_eq (u : UnitFile) : u.descriptionText = "Description".toList ++ '=' ::
    ("VPN " ++ u.description ++ " (" ++ u.profile.value ++ ")").toList := by
  have hkey : "Description=VPN ".toList = "Description".toList ++ '=' :: "VPN ".toList := by decide
  simp only [UnitFile.descriptionText, String.toList_append, hkey, List.append_assoc,
    List.cons_append, -String.reduceToList]

theorem startsLine_descriptionText (u : UnitFile) (tail : List Char) :
    UnitConf.StartsLine (u.descriptionText ++ tail) := by
  have hkey : "Description".toList = 'D' :: "escription".toList := by decide
  have hhead : (u.descriptionText ++ tail).head? = some 'D' := by
    rw [descriptionText_eq, hkey]
    rfl
  rw [UnitConf.StartsLine, hhead]
  decide

/-- The fixed lines have no end of a line in them. -/
theorem eolOf_fixedLines : ∀ line ∈ [unitLine, afterLine, wantsLine, [], serviceLine, typeLine,
    limitLine, installLine, wantedByLine], ∀ c ∈ line, eolOf c = none := by
  have hall : ([unitLine, afterLine, wantsLine, [], serviceLine, typeLine, limitLine, installLine,
      wantedByLine].all fun line => line.all fun c => eolOf c = none) = true := by decide
  intro line hline
  exact List.all_iff_forall_prop.mp (List.all_eq_true.mp hall line hline)

theorem readLines_render (hx : ∀ c ∈ u.execStart.toList, eolOf c = none) :
    readLines [] [] u.render.toList = unitLine :: (readLines [] [] u.descriptionText ++
      [afterLine, wantsLine, [], serviceLine, typeLine, u.execLine, limitLine, [], installLine,
        wantedByLine]) := by
  have hfixed := eolOf_fixedLines
  simp only [List.forall_mem_cons] at hfixed
  obtain ⟨hunit, hafter, hwants, hblank, hservice, htype, hlimit, hinstall, hwantedBy, -⟩ := hfixed
  have hexec : ∀ c ∈ u.execLine, eolOf c = none := by
    have hkey : ∀ c ∈ "ExecStart".toList, eolOf c = none :=
      List.all_iff_forall_prop.mp (by decide)
    intro c hc
    obtain hc | hc := List.mem_append.mp hc
    · exact hkey c hc
    · obtain rfl | hc := List.mem_cons.mp hc
      · rfl
      · exact hx c hc
  obtain ⟨init, hinit⟩ := descriptionText_eq_concat u
  have hstarts {cs tail : List Char} (h : ∀ c ∈ cs, eolOf c = none) :
      UnitConf.StartsLine (cs ++ '\n' :: tail) := UnitConf.startsLine_line h
  rw [render_eq, UnitConf.readLines_line hunit (startsLine_descriptionText u _), hinit,
    List.append_assoc, List.singleton_append, UnitConf.readLines_append rfl (hstarts hafter),
    UnitConf.readLines_line hafter (hstarts hwants),
    UnitConf.readLines_line hwants (hstarts hblank),
    UnitConf.readLines_line hblank (hstarts hservice),
    UnitConf.readLines_line hservice (hstarts htype), UnitConf.readLines_line htype (hstarts hexec),
    UnitConf.readLines_line hexec (hstarts hlimit), UnitConf.readLines_line hlimit (hstarts hblank),
    UnitConf.readLines_line hblank (hstarts hinstall),
    UnitConf.readLines_line hinstall (hstarts hwantedBy),
    UnitConf.readLines_line hwantedBy ⟨by decide, by decide⟩]
  rfl

/-! ## its joined lines -/

theorem plain_fixedLines : ∀ line ∈ [unitLine, afterLine, wantsLine, [], serviceLine, typeLine,
    limitLine, installLine, wantedByLine], Joiner.PlainLine line := by
  have hcheck : ∀ line ∈ [unitLine, afterLine, wantsLine, [], serviceLine, typeLine, limitLine,
      installLine, wantedByLine], UnitConf.isComment line = false ∧
        line.head? ≠ some UnitConf.bom ∧ endsEscaped line = false := by
    decide
  exact fun line hline => ⟨(hcheck line hline).1, (hcheck line hline).2.1, (hcheck line hline).2.2⟩

/-- The lines of the command, with the one after it if it is continued. -/
def UnitFile.execLines (u : UnitFile) : List (List Char) :=
  if endsEscaped u.execLine then [u.execLine.dropLast ++ [' '] ++ limitLine]
  else [u.execLine, limitLine]

theorem execLine_head (u : UnitFile) : ∃ rest, u.execLine = 'E' :: rest :=
  have hkey : "ExecStart".toList = 'E' :: "xecStart".toList := by decide
  ⟨_, congrArg (· ++ '=' :: u.execStart.toList) hkey⟩

theorem continued_joined (u : UnitFile) : u.joined.Continued :=
  Joiner.continued_fold (fun _ hp => by cases hp) _

theorem fold_execLine {j : Joiner} (hnone : j.pending = none) :
    [u.execLine, limitLine].foldl Joiner.step j =
      { j with done := u.execLines.reverse ++ j.done } := by
  have hfixed := plain_fixedLines
  simp only [List.forall_mem_cons] at hfixed
  obtain ⟨-, -, -, -, -, -, hlimit, -⟩ := hfixed
  obtain ⟨rest, hrest⟩ := execLine_head u
  have hcomment : UnitConf.isComment u.execLine = false := by
    rw [hrest]
    exact UnitConf.isComment_cons rfl (by decide) (by decide) rest
  have hbom : u.execLine.head? ≠ some UnitConf.bom := by
    rw [hrest, List.head?_cons]
    decide
  rw [UnitFile.execLines]
  by_cases hescaped : endsEscaped u.execLine = true
  · have hexec : j.step u.execLine = { j with pending := some (u.execLine.dropLast ++ [' ']) } := by
      rw [Joiner.step, if_neg (by simp [hcomment]), if_neg (by simp [hbom]), Joiner.add]
      simp [hnone, hescaped]
    have hcontinued :
        Joiner.Continued { j with pending := some (u.execLine.dropLast ++ [' ']) } := by
      intro p hp
      rw [← Option.some.inj hp]
      exact UnitConf.endsEscaped_concat_blank _
    rw [List.foldl_cons, hexec, List.foldl_cons, Joiner.step_of_plain hlimit hcontinued]
    simp [hescaped, hnone]
  · have hexec : Joiner.PlainLine u.execLine := ⟨hcomment, hbom, by simpa using hescaped⟩
    have hboth : ∀ line ∈ [u.execLine, limitLine], Joiner.PlainLine line := by simp [hexec, hlimit]
    rw [Joiner.fold_of_plain hboth hnone]
    simp [hescaped]

theorem logical_render (hx : ∀ c ∈ u.execStart.toList, eolOf c = none) :
    ((readLines [] [] u.render.toList).foldl Joiner.step {}).logical =
      [unitLine] ++ u.joined.done.reverse ++
        [u.joined.pending.getD [] ++ afterLine, wantsLine, [], serviceLine, typeLine] ++
          u.execLines ++ [[], installLine, wantedByLine] := by
  have hfixed := plain_fixedLines
  simp only [List.forall_mem_cons] at hfixed
  obtain ⟨hunit, hafter, hwants, hblank, hservice, htype, hlimit, hinstall, hwantedBy, -⟩ := hfixed
  have hstart : Joiner.step {} unitLine = { pending := none, done := [unitLine] } :=
    Joiner.step_of_plain hunit fun _ hp => by cases hp
  have hdescription : (readLines [] [] u.descriptionText).foldl Joiner.step
      { pending := none, done := [unitLine] } =
        { u.joined with done := u.joined.done ++ [unitLine] } :=
    Joiner.fold_done {} [unitLine] _
  have hcontinued := (continued_joined u).withDone (u.joined.done ++ [unitLine])
  rw [readLines_render hx, List.foldl_cons, hstart, List.foldl_append, hdescription,
    List.foldl_cons, Joiner.step_of_plain hafter hcontinued]
  show Joiner.logical (([wantsLine, [], serviceLine, typeLine] ++ ([u.execLine, limitLine] ++
    [[], installLine, wantedByLine])).foldl Joiner.step _) = _
  have hfirst : ∀ line ∈ [wantsLine, [], serviceLine, typeLine], Joiner.PlainLine line := by
    simp [hwants, hblank, hservice, htype]
  have hlast : ∀ line ∈ [[], installLine, wantedByLine], Joiner.PlainLine line := by
    simp [hblank, hinstall, hwantedBy]
  rw [List.foldl_append, List.foldl_append, Joiner.fold_of_plain hfirst rfl, fold_execLine rfl,
    Joiner.fold_of_plain hlast rfl]
  simp [Joiner.logical]

/-- The first of the description's lines is its directive. -/
theorem begins_joined (u : UnitFile) : u.joined.Begins "Description".toList := by
  have hkey : "Description".toList ++ ['='] ≠ [] ∧
      ∀ c ∈ "Description".toList ++ ['='], eolOf c = none :=
    ⟨by decide, List.all_iff_forall_prop.mp (by decide)⟩
  have htext : u.descriptionText = "Description".toList ++ ['='] ++
      ("VPN " ++ u.description ++ " (" ++ u.profile.value ++ ")").toList := by
    rw [descriptionText_eq, List.append_assoc]
    rfl
  obtain ⟨value, rest, hlines⟩ : ∃ value rest, readLines [] [] u.descriptionText =
      ("Description".toList ++ ['='] ++ value) :: rest := by
    rw [htext]
    exact UnitConf.readLines_prefix hkey.1 hkey.2
  rw [UnitFile.joined, hlines, List.foldl_cons]
  refine Joiner.begins_fold ?_ rest
  obtain ⟨tail, htail⟩ : ∃ tail, "Description".toList ++ ['='] ++ value = 'D' :: tail :=
    have hhead : "Description".toList = 'D' :: "escription".toList := by decide
    ⟨_, congrArg (· ++ ['='] ++ value) hhead⟩
  have hstep : Joiner.step {} ("Description".toList ++ ['='] ++ value) =
      Joiner.add {} ("Description".toList ++ ['='] ++ value) := by
    rw [htail]
    exact Joiner.step_cons rfl (by decide) (by decide) (by decide) tail
  rw [hstep]
  exact Joiner.begins_add value rfl (by simp)

/-! ## what they say -/

theorem parseLine_fixedLines :
    parseLine unitLine = some [.header "Unit"] ∧
      parseLine wantsLine = some [.assignment "Wants" "network-online.target"] ∧
      parseLine [] = some [] ∧ parseLine serviceLine = some [.header "Service"] ∧
      parseLine typeLine = some [.assignment "Type" "simple"] ∧
      parseLine limitLine = some [.assignment "LimitNOFILE" "1048576"] ∧
      parseLine installLine = some [.header "Install"] ∧
      parseLine wantedByLine = some [.assignment "WantedBy" "multi-user.target"] := by
  decide

theorem plainKey_description : UnitConf.PlainKey "Description".toList where
  head := ⟨'D', "escription".toList, by decide, rfl, by decide⟩
  noEq := by decide
  stripped := by decide

theorem plainKey_after : UnitConf.PlainKey "After".toList where
  head := ⟨'A', "fter".toList, by decide, rfl, by decide⟩
  noEq := by decide
  stripped := by decide

theorem plainKey_execStart : UnitConf.PlainKey "ExecStart".toList where
  head := ⟨'E', "xecStart".toList, by decide, rfl, by decide⟩
  noEq := by decide
  stripped := by decide

/-- What stands between the description and the command. -/
def middleEvents : List Event :=
  [.assignment "Wants" "network-online.target", .header "Service", .assignment "Type" "simple"]

def limitEvent : Event := .assignment "LimitNOFILE" "1048576"

/-- What stands after the command. -/
def lastEvents : List Event := [.header "Install", .assignment "WantedBy" "multi-user.target"]

def unitEvent : Event := .header "Unit"

def afterEvent : Event := .assignment "After" "network-online.target"

theorem directives_eq (u : UnitFile) (name : String) :
    u.directives name = [unitEvent] ++ [.assignment "Description" name] ++ [afterEvent] ++
      middleEvents ++ [.assignment "ExecStart" u.execStart, limitEvent] ++ lastEvents := rfl

theorem endsEscaped_execLine (u : UnitFile) :
    endsEscaped u.execLine = endsEscaped u.execStart.toList := by
  have hkey : endsEscaped ("ExecStart".toList ++ ['=']) = false := by decide
  have happend : endsEscaped ("ExecStart".toList ++ ['='] ++ u.execStart.toList) =
      endsEscaped u.execStart.toList := UnitConf.endsEscaped_append hkey
  rwa [List.append_assoc] at happend

/-- What the lines of the command say. -/
theorem parseLines_execLines (u : UnitFile) :
    (endsEscaped u.execLine = false ∧ parseLines u.execLines =
        some [.assignment "ExecStart" (String.ofList (strip u.execStart.toList)), limitEvent]) ∨
      endsEscaped u.execLine = true ∧
        ∃ value, parseLines u.execLines = some [.assignment "ExecStart" value] := by
  obtain ⟨-, -, -, -, -, hlimit, -, -⟩ := parseLine_fixedLines
  cases hescaped : endsEscaped u.execLine with
  | false =>
      refine Or.inl ⟨rfl, ?_⟩
      have hexec : parseLine u.execLine = _ := UnitConf.parseLine_assignment plainKey_execStart
      rw [String.ofList_toList] at hexec
      simp [UnitFile.execLines, hescaped, parseLines, hexec, hlimit, limitEvent]
  | true =>
      refine Or.inr ⟨rfl, ?_⟩
      have hne : u.execStart.toList ≠ [] := by
        intro hnil
        rw [endsEscaped_execLine, hnil] at hescaped
        cases hescaped
      have hexec : parseLine (u.execLine.dropLast ++ [' '] ++ limitLine) = _ :=
        (congrArg parseLine (UnitConf.dropLast_directive hne limitLine)).trans
          (UnitConf.parseLine_assignment plainKey_execStart)
      rw [String.ofList_toList] at hexec
      refine ⟨String.ofList (strip (u.execStart.toList.dropLast ++ [' '] ++ limitLine)), ?_⟩
      rw [UnitFile.execLines, if_pos hescaped, parseLines, hexec]
      rfl

/-- What the whole file says, line by line. -/
theorem parse_render (hx : ∀ c ∈ u.execStart.toList, eolOf c = none) {events : List Event} :
    UnitConf.parse u.render = some events ↔
      ∃ description after exec, parseLines u.joined.done.reverse = some description ∧
        parseLine (u.joined.pending.getD [] ++ afterLine) = some after ∧
        parseLines u.execLines = some exec ∧
        events = [unitEvent] ++ description ++ after ++ middleEvents ++ exec ++ lastEvents := by
  obtain ⟨hunit, hwants, hblank, hservice, htype, -, hinstall, hwantedBy⟩ := parseLine_fixedLines
  have hfirst : parseLines [unitLine] = some [unitEvent] := by
    rw [parseLines, hunit]
    rfl
  have hmiddle : parseLines [wantsLine, [], serviceLine, typeLine] = some middleEvents := by
    simp only [parseLines, hwants, hblank, hservice, htype]
    rfl
  have hlast : parseLines [[], installLine, wantedByLine] = some lastEvents := by
    simp only [parseLines, hblank, hinstall, hwantedBy]
    rfl
  rw [UnitConf.parse, logical_render hx]
  constructor
  · intro h
    obtain ⟨_, last, h₁, hlast', rfl⟩ := UnitConf.parseLines_append_eq_some.mp h
    obtain ⟨_, exec, h₂, hexec, rfl⟩ := UnitConf.parseLines_append_eq_some.mp h₁
    obtain ⟨_, _, h₃, h₄, rfl⟩ := UnitConf.parseLines_append_eq_some.mp h₂
    obtain ⟨first, description, hfirst', hdescription, rfl⟩ :=
      UnitConf.parseLines_append_eq_some.mp h₃
    obtain ⟨after, middle, hafter, hmiddle', rfl⟩ := UnitConf.parseLines_cons_eq_some.mp h₄
    obtain rfl := Option.some.inj (hlast.symm.trans hlast')
    obtain rfl := Option.some.inj (hfirst.symm.trans hfirst')
    obtain rfl := Option.some.inj (hmiddle.symm.trans hmiddle')
    refine ⟨description, after, exec, hdescription, hafter, hexec, ?_⟩
    simp only [List.append_assoc]
  · rintro ⟨description, after, exec, hdescription, hafter, hexec, rfl⟩
    refine UnitConf.parseLines_append_eq_some.mpr ⟨_, _, ?_, hlast, rfl⟩
    refine UnitConf.parseLines_append_eq_some.mpr ⟨_, _, ?_, hexec, rfl⟩
    rw [List.append_assoc _ after]
    refine UnitConf.parseLines_append_eq_some.mpr ⟨_, _, ?_,
      UnitConf.parseLines_cons_eq_some.mpr ⟨after, _, hafter, hmiddle, rfl⟩, rfl⟩
    exact UnitConf.parseLines_append_eq_some.mpr ⟨_, _, hfirst, hdescription, rfl⟩

theorem parseLines_of_ignored {ls : List (List Char)}
    (h : ∀ l ∈ ls, strip l = [] ∨ '=' ∉ strip l ∧ (strip l).head? ≠ some '[') :
    parseLines ls = some [] := by
  induction ls with
  | nil => rfl
  | cons l ls ih =>
      have hl := UnitConf.parseLine_eq_nil_iff.mpr (h l List.mem_cons_self)
      rw [parseLines, hl, ih fun l' hl' => h l' (List.mem_cons_of_mem _ hl')]
      rfl

theorem ignored_of_parseLines {ls : List (List Char)} (h : parseLines ls = some []) :
    ∀ l ∈ ls, strip l = [] ∨ '=' ∉ strip l ∧ (strip l).head? ≠ some '[' := by
  induction ls with
  | nil => simp
  | cons l ls ih =>
      obtain ⟨es, es', hl, hls, heq⟩ := UnitConf.parseLines_cons_eq_some.mp h
      obtain ⟨rfl, rfl⟩ := List.append_eq_nil_iff.mp heq.symm
      intro l' hl'
      obtain rfl | hl' := List.mem_cons.mp hl'
      · exact UnitConf.parseLine_eq_nil_iff.mp hl
      · exact ih hls l' hl'

/-- The file has the directives of the template. -/
theorem asTemplate_of_plain (hone : u.OneDirective) (hplain : u.PlainCommand) : u.AsTemplate := by
  have hpending : ∀ c ∈ u.joined.pending.getD [], isBlank c = true := by
    cases hp : u.joined.pending with
    | none => simp
    | some p => exact hone.closed p hp
  have hafter : parseLine (u.joined.pending.getD [] ++ afterLine) =
      some [.assignment "After" "network-online.target"] := by
    rw [UnitConf.parseLine_congr (UnitConf.strip_append hpending)]
    decide
  obtain ⟨hescaped, hexec⟩ | ⟨hescaped, -⟩ := parseLines_execLines u
  · obtain ⟨value, rest, hdone⟩ | ⟨-, value, hp⟩ := begins_joined u
    · have hrest : parseLines rest = some [] :=
        parseLines_of_ignored (by simpa [hdone] using hone.ignored)
      have hdescription : parseLines u.joined.done.reverse = some
          [.assignment (String.ofList "Description".toList) (String.ofList (strip value))] := by
        rw [hdone, parseLines, UnitConf.parseLine_assignment plainKey_description, hrest]
        rfl
      rw [String.ofList_toList] at hdescription
      refine ⟨String.ofList (strip value), (parse_render hplain.oneLine).mpr
        ⟨_, _, _, hdescription, hafter, hexec, ?_⟩⟩
      rw [hplain.stripped, String.ofList_toList]
      rfl
    · -- an open line of the description is not blank
      obtain ⟨c, tail, hkey, hc, -⟩ := plainKey_description.head
      have hblank := hone.closed _ hp c (by rw [hkey]; simp)
      simp [hc] at hblank
  · rw [endsEscaped_execLine, hplain.complete] at hescaped
    cases hescaped

theorem length_after {after : List Event}
    (h : parseLine (u.joined.pending.getD [] ++ afterLine) = some after) :
    ∃ e, after = [e] := by
  have hmem : '=' ∈ afterLine := by decide
  exact List.length_eq_one_iff.mp
    (UnitConf.length_of_parseLine (List.mem_append_right _ hmem) h)

/-- It has no others only then. -/
theorem oneDirective_of_asTemplate (h : u.AsTemplate) : u.OneDirective ∧ u.PlainCommand := by
  obtain ⟨name, h⟩ := h
  have hx : ∀ c ∈ u.execStart.toList, eolOf c = none :=
    UnitConf.eolOf_of_parse h (show Event.assignment "ExecStart" u.execStart ∈ u.directives name by
      simp [UnitFile.directives])
  obtain ⟨description, after, exec, hdescription, hafter, hexec, heq⟩ := (parse_render hx).mp h
  obtain ⟨e, rfl⟩ := length_after hafter
  obtain ⟨hescaped, hexec'⟩ | ⟨-, value, hexec'⟩ := parseLines_execLines u
  · obtain rfl := Option.some.inj (hexec'.symm.trans hexec)
    rw [directives_eq, List.append_left_inj] at heq
    obtain ⟨hfirst, hlast⟩ := List.append_inj' heq rfl
    obtain ⟨hfirst, -⟩ := List.append_inj' hfirst rfl
    obtain ⟨hdesc, he⟩ := List.append_inj' hfirst rfl
    have hstrip : String.ofList (strip u.execStart.toList) = u.execStart := by
      simpa using hlast.symm
    obtain rfl : description = [.assignment "Description" name] :=
      (List.append_cancel_left hdesc).symm
    obtain rfl : e = afterEvent := by simpa using he.symm
    refine ⟨⟨fun p hp => ?_, ?_⟩, hx, ?_, ?_⟩
    · rw [hp] at hafter
      exact UnitConf.blank_of_parseLine plainKey_after
        (show parseLine (p ++ ("After".toList ++ '=' :: "network-online.target".toList)) = _ from
          hafter)
    · obtain ⟨value, rest, hdone⟩ | ⟨hdone, -⟩ := begins_joined u
      · rw [hdone] at hdescription ⊢
        obtain ⟨es, es', hes, hrest, heq⟩ := UnitConf.parseLines_cons_eq_some.mp hdescription
        obtain rfl :=
          Option.some.inj ((UnitConf.parseLine_assignment plainKey_description).symm.trans
          hes)
        obtain rfl : es' = [] := (List.cons.inj heq).2.symm
        exact ignored_of_parseLines hrest
      · rw [hdone] at hdescription
        cases hdescription
    · rw [← endsEscaped_execLine, hescaped]
    · have hlist := congrArg String.toList hstrip
      rwa [String.toList_ofList] at hlist
  · obtain rfl := Option.some.inj (hexec'.symm.trans hexec)
    -- the limit is missing
    rw [directives_eq, List.append_left_inj] at heq
    have hsplit : [unitEvent] ++ [.assignment "Description" name] ++ [afterEvent] ++ middleEvents ++
        [.assignment "ExecStart" u.execStart] ++ [limitEvent] =
          [unitEvent] ++ description ++ [e] ++ middleEvents ++ [.assignment "ExecStart" value] := by
      rw [← heq]
      simp only [List.append_assoc, List.cons_append, List.nil_append]
    obtain ⟨-, hlast⟩ := List.append_inj' hsplit rfl
    simp [limitEvent] at hlast

end

/-- **The unit of a config** has the directives of the template and no others
exactly when what its name adds to the line of the description is ignored, and
its command is plain. -/
theorem asTemplate_iff (profile : ConfigProfile) (configId : ConfigId)
    (filename configName : String)
    (settings : SystemdSettings) :
    let u := configUnit profile configId filename configName settings
    u.AsTemplate ↔ u.OneDirective ∧ u.PlainCommand :=
  ⟨oneDirective_of_asTemplate, fun h => asTemplate_of_plain h.1 h.2⟩

/-- A name without the end of a line makes one directive. -/
theorem oneDirective_of_line {u : UnitFile} (h : ∀ c ∈ u.description.toList, eolOf c = none) :
    u.OneDirective := by
  have htext : ∀ c ∈ u.descriptionText, eolOf c = none := by
    have hfirst : ∀ c ∈ "Description=VPN ".toList, eolOf c = none :=
      List.all_iff_forall_prop.mp (by decide)
    have hopen : ∀ c ∈ " (".toList, eolOf c = none := List.all_iff_forall_prop.mp (by decide)
    have hclose : ∀ c ∈ ")".toList, eolOf c = none := List.all_iff_forall_prop.mp (by decide)
    have hprofile : ∀ c ∈ u.profile.value.toList, eolOf c = none := by
      refine List.all_iff_forall_prop.mp ?_
      cases u.profile <;> decide
    intro c hc
    simp only [UnitFile.descriptionText, String.toList_append, List.mem_append,
      -String.reduceToList] at hc
    obtain (((hc | hc) | hc) | hc) | hc := hc
    · exact hfirst c hc
    · exact h c hc
    · exact hopen c hc
    · exact hprofile c hc
    · exact hclose c hc
  obtain ⟨init, hinit⟩ := descriptionText_eq_concat u
  have hcomplete : endsEscaped u.descriptionText = false := by
    simp [hinit, endsEscaped]
  obtain ⟨tail, htail⟩ : ∃ tail, u.descriptionText = 'D' :: tail := by
    have hhead : "Description".toList = 'D' :: "escription".toList := by decide
    rw [descriptionText_eq, hhead]
    exact ⟨_, rfl⟩
  have hjoined : u.joined = { done := [u.descriptionText] } := by
    have hne : u.descriptionText ≠ [] := by simp [htail]
    have hstep : Joiner.step {} u.descriptionText = Joiner.add {} u.descriptionText := by
      rw [htail]
      exact Joiner.step_cons rfl (by decide) (by decide) (by decide) tail
    rw [UnitFile.joined, UnitConf.readLines_last hne htext, List.foldl_cons, List.foldl_nil, hstep]
    simp [Joiner.add, hcomplete]
  exact ⟨by simp [hjoined], by simp [hjoined]⟩

/-- A name with a section of its own: the service runs another command. -/
theorem not_asTemplate_of_section :
    ¬ (configUnit .xrayXhttp 0 "config.json"
      "x\n[Service]\nExecStartPre=/bin/touch /root/x\n#" {}).AsTemplate := by
  intro h
  have hignored := (oneDirective_of_asTemplate h).1.ignored "[Service]".toList (by decide)
  revert hignored
  decide

end VpnPanel
