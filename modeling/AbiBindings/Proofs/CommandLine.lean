import AbiBindings.CommandLine

/-!
# Accepted command lines

The program does something only without arguments, or with one argument that asks for help in one of
its two spellings. Whatever else it is given, it shows how to use it. The name it shows is the final
component of the path it was called by.
-/

namespace AbiBindings

namespace Text

theorem decodeFrom_some_ne_nil (u : Unfinished) (bytes : List UInt8) :
    decodeFrom (some u) bytes ≠ [] := by
  induction bytes generalizing u with
  | nil => exact List.cons_ne_nil _ _
  | cons b rest ih =>
    rw [decodeFrom]
    simp only
    split
    · split
      · exact List.cons_ne_nil _ _
      · exact ih _
    · split
      · exact List.cons_ne_nil _ _
      · exact List.cons_ne_nil _ _
      · exact List.cons_ne_nil _ _

/-- No byte is lost altogether. -/
theorem decode_eq_nil_iff (bytes : List UInt8) : decode bytes = [] ↔ bytes = [] := by
  constructor
  · intro h
    cases bytes with
    | nil => rfl
    | cons b rest =>
      rw [decode, decodeFrom] at h
      simp only at h
      split at h
      · exact absurd h (List.cons_ne_nil _ _)
      · exact absurd h (decodeFrom_some_ne_nil _ _)
      · exact absurd h (List.cons_ne_nil _ _)
  · rintro rfl
    rfl

end Text

namespace CommandLine

/-- The two arguments that ask for help. -/
def AsksHelp (argument : Argument) : Prop :=
  argument = Text.utf8 "-h" ∨ argument = Text.utf8 "--help"

theorem takeWhile_append_drop (p : UInt8 → Bool) (bytes : List UInt8) :
    bytes.takeWhile p ++ bytes.drop (bytes.takeWhile p).length = bytes :=
  List.prefix_iff_eq_append.mp (List.takeWhile_prefix p)

theorem readLong_eq_help_iff (option : Argument) :
    readLong option = .ok .help ↔ option = Text.utf8 "help" := by
  constructor
  · intro h
    have happend := takeWhile_append_drop (· != byte '=') option
    simp only [readLong] at h
    split at h
    · cases h
    · rename_i hname
      rw [ne_eq, Decidable.not_not] at hname
      split at h
      · rename_i hdrop
        rw [hdrop, List.append_nil] at happend
        exact happend.symm.trans hname
      · cases h
  · rintro rfl
    rfl

theorem readShort_eq_help_iff {letters : Argument} (hne : letters ≠ []) :
    readShort letters = .ok .help ↔ letters = [byte 'h'] := by
  constructor
  · intro h
    have happend := takeWhile_append_drop (· == byte 'h') letters
    have hall : ∀ b ∈ letters.takeWhile (· == byte 'h'), b = byte 'h' := fun b hb =>
      beq_iff_eq.mp (List.all_eq_true.mp List.all_takeWhile b hb)
    simp only [readShort] at h
    split at h
    · cases h
    · rename_i hlength
      split at h
      · rename_i hdecode
        rw [(Text.decode_eq_nil_iff _).mp hdecode, List.append_nil] at happend
        rw [happend] at hall hlength
        cases letters with
        | nil => exact absurd rfl hne
        | cons first rest =>
          have hrest : rest = [] := List.length_eq_zero_iff.mp (by
            rw [List.length_cons] at hlength
            omega)
          rw [hall first (List.mem_cons_self ..), hrest]
      · cases h
      · cases h
  · rintro rfl
    rfl

theorem readArgument_eq_help_iff (argument : Argument) :
    readArgument argument = .ok .help ↔ AsksHelp argument := by
  constructor
  · intro h
    unfold readArgument at h
    split at h
    · rename_i first second rest
      split at h
      · cases h
      · rename_i hfirst
        rw [ne_eq, Decidable.not_not] at hfirst
        split at h
        · rename_i hsecond
          rw [hfirst, hsecond, (readLong_eq_help_iff rest).mp h]
          exact Or.inr rfl
        · rw [hfirst, (readShort_eq_help_iff (List.cons_ne_nil _ _)).mp h]
          exact Or.inl rfl
    · cases h
  · rintro (rfl | rfl) <;> rfl

theorem readLong_ne_generate (option : Argument) : readLong option ≠ .ok .generate := by
  unfold readLong
  simp only
  split
  · exact nofun
  · split <;> exact nofun

theorem readShort_ne_generate (letters : Argument) : readShort letters ≠ .ok .generate := by
  unfold readShort
  simp only
  split
  · exact nofun
  · split <;> exact nofun

theorem readArgument_ne_generate (argument : Argument) : readArgument argument ≠ .ok .generate := by
  unfold readArgument
  split
  · split
    · exact nofun
    · split
      · exact readLong_ne_generate _
      · exact readShort_ne_generate _
  · exact nofun

theorem parse_eq_generate_iff (arguments : List Argument) :
    parse arguments = .ok .generate ↔ arguments.length ≤ 1 := by
  match arguments with
  | [] => exact iff_of_true rfl (Nat.zero_le 1)
  | [program] => exact iff_of_true rfl (Nat.le_refl 1)
  | [program, argument] =>
    refine iff_of_false ?_ (Nat.not_succ_le_self 1)
    rw [parse]
    split
    · exact nofun
    · exact readArgument_ne_generate argument
  | program :: first :: second :: rest =>
    refine iff_of_false nofun ?_
    simp only [List.length_cons]
    omega

theorem parse_eq_help_iff (arguments : List Argument) :
    parse arguments = .ok .help ↔
      ∃ program argument, arguments = [program, argument] ∧ AsksHelp argument := by
  match arguments with
  | [] => exact iff_of_false nofun nofun
  | [program] => exact iff_of_false nofun nofun
  | [program, argument] =>
    have hend : ¬AsksHelp endOfOptions := by
      rintro (h | h) <;> exact absurd h (by decide)
    constructor
    · intro h
      rw [parse] at h
      split at h
      · cases h
      · exact ⟨program, argument, rfl, (readArgument_eq_help_iff argument).mp h⟩
    · rintro ⟨_, _, harguments, hhelp⟩
      obtain ⟨rfl, hargument⟩ := List.cons.inj harguments
      obtain ⟨rfl, -⟩ := List.cons.inj hargument
      have hne : argument ≠ endOfOptions := by
        rintro rfl
        exact hend hhelp
      rw [parse, if_neg hne]
      exact (readArgument_eq_help_iff argument).mpr hhelp
  | program :: first :: second :: rest => exact iff_of_false nofun nofun

/-- The components of a path that count: neither empty nor a single dot. -/
def components (path : Argument) : List Argument :=
  (Text.split (byte '/') path).filter fun c => c ≠ [] ∧ c ≠ Text.utf8 "."

/-- The last component of a path, where slashes and single dots behind it do not count. -/
structure FinalComponent (path name : Argument) : Prop where
  nonempty : name ≠ []
  noSlash : byte '/' ∉ name
  notDot : name ≠ Text.utf8 "."
  notTwoDots : name ≠ Text.utf8 ".."
  stands : ∃ (front : Argument) (trailing : List Argument),
    path = front ++ name ++ trailing.flatten ∧
    (front = [] ∨ ∃ directory, front = directory ++ [byte '/']) ∧
    ∀ part ∈ trailing, part = Text.utf8 "/" ∨ part = Text.utf8 "/."

theorem components_append_slash (as bs : Argument) :
    components (as ++ byte '/' :: bs) = components as ++ components bs := by
  rw [components, Text.split_append_cons, List.filter_append]
  rfl

theorem components_trailing (as : Argument) {trailing : List Argument}
    (h : ∀ part ∈ trailing, part = Text.utf8 "/" ∨ part = Text.utf8 "/.") :
    components (as ++ trailing.flatten) = components as := by
  induction trailing generalizing as with
  | nil => rw [List.flatten_nil, List.append_nil]
  | cons part rest ih =>
    obtain ⟨hpart, hrest⟩ := List.forall_mem_cons.mp h
    rw [List.flatten_cons, ← List.append_assoc, ih _ hrest]
    rcases hpart with rfl | rfl
    · have happend := components_append_slash as []
      rwa [show components [] = [] from rfl, List.append_nil] at happend
    · have happend := components_append_slash as (Text.utf8 ".")
      rwa [show components (Text.utf8 ".") = [] by decide, List.append_nil] at happend

theorem FinalComponent.getLast?_components {path name : Argument} (h : FinalComponent path name) :
    (components path).getLast? = some name := by
  have hname : components name = [name] := by
    rw [components, Text.split_of_notMem h.noSlash]
    exact List.filter_cons_of_pos (by simp [h.nonempty, h.notDot])
  obtain ⟨front, trailing, rfl, hfront, htrailing⟩ := h.stands
  rw [components_trailing _ htrailing]
  rcases hfront with rfl | ⟨directory, rfl⟩
  · rw [List.nil_append, hname]
    rfl
  · rw [List.append_assoc, List.singleton_append, components_append_slash, hname,
      List.getLast?_concat]

theorem finalComponent_of_getLast?_components {path name : Argument}
    (h : (components path).getLast? = some name) (hdots : name ≠ Text.utf8 "..") :
    FinalComponent path name := by
  obtain ⟨init, hinit⟩ := List.getLast?_eq_some_iff.mp h
  obtain ⟨before, back, hsplit, -, hback⟩ := List.filter_eq_append_iff.mp hinit
  obtain ⟨skipped, after, rfl, -, hname, hafter⟩ := List.filter_eq_cons_iff.mp hback
  rw [decide_eq_true_iff] at hname
  have hpart : name ∈ Text.split (byte '/') path := by simp [hsplit]
  have hslash : byte '/' ∉ name := Text.notMem_of_mem_split hpart
  refine ⟨hname.1, hslash, hname.2, hdots, ?_⟩
  have hjoin := Text.flatMap_split (byte '/') path
  rw [hsplit, ← List.append_assoc, List.flatMap_append, List.flatMap_cons] at hjoin
  have htrailing : ∀ part ∈ after.map (byte '/' :: ·),
      part = Text.utf8 "/" ∨ part = Text.utf8 "/." := by
    intro part hpart
    obtain ⟨skipped, hskipped, rfl⟩ := List.mem_map.mp hpart
    have hskip := List.filter_eq_nil_iff.mp hafter skipped hskipped
    by_cases hnil : skipped = []
    · subst hnil
      exact Or.inl rfl
    · have hdot : skipped = Text.utf8 "." := by simpa [hnil] using hskip
      subst hdot
      exact Or.inr rfl
  cases hbefore : before ++ skipped with
  | nil =>
    rw [hbefore] at hjoin
    refine ⟨[], after.map (byte '/' :: ·), ?_, Or.inl rfl, htrailing⟩
    exact (List.cons.inj hjoin).2.symm
  | cons first others =>
    rw [hbefore, List.flatMap_cons] at hjoin
    have hpath := (List.cons.inj hjoin).2.symm
    refine ⟨first ++ others.flatMap (byte '/' :: ·) ++ [byte '/'], after.map (byte '/' :: ·), ?_,
      Or.inr ⟨_, rfl⟩, htrailing⟩
    rw [hpath, ← List.flatMap_def]
    simp

/-- The name under which the program shows its usage. -/
inductive Names : Option Argument → String → Prop
  | component {path name : Argument} (h : FinalComponent path name) :
    Names (some path) (Text.lossy name)
  | noComponent {path : Argument} (h : ∀ name, ¬FinalComponent path name) :
    Names (some path) "gendeps"
  | noPath : Names none "gendeps"

theorem programName_some (path : Argument) :
    programName (some path) = ((fileName? path).getD "gendeps") :=
  rfl

theorem fileName?_of_finalComponent {path name : Argument} (h : FinalComponent path name) :
    fileName? path = some (Text.lossy name) := by
  have hlast : ((Text.split (byte '/') path).filter
      fun c => c ≠ [] ∧ c ≠ Text.utf8 ".").getLast? = some name := h.getLast?_components
  rw [fileName?]
  simp only [hlast, if_neg h.notTwoDots]

theorem fileName?_eq_none {path : Argument} (h : ∀ name, ¬FinalComponent path name) :
    fileName? path = none := by
  rw [fileName?]
  split
  · rfl
  · rename_i name hlast
    split
    · rfl
    · rename_i hdots
      exact absurd (finalComponent_of_getLast?_components hlast hdots) (h name)

/-- Every path has exactly one name to be shown. -/
theorem names_iff (program : Option Argument) (name : String) :
    Names program name ↔ name = programName program := by
  constructor
  · rintro (h | h | _)
    · rw [programName_some, fileName?_of_finalComponent h, Option.getD_some]
    · rw [programName_some, fileName?_eq_none h, Option.getD_none]
    · rfl
  · rintro rfl
    cases program with
    | none => exact .noPath
    | some path =>
      rw [programName_some]
      by_cases hfinal : ∃ component, FinalComponent path component
      · obtain ⟨component, hcomponent⟩ := hfinal
        rw [fileName?_of_finalComponent hcomponent]
        exact .component hcomponent
      · have hnone : ∀ component, ¬FinalComponent path component := fun component h =>
          hfinal ⟨component, h⟩
        rw [fileName?_eq_none hnone]
        exact .noComponent hnone

theorem run_of_help {arguments : List Argument} (h : parse arguments = .ok .help)
    (coloured libraryFound : Bool) (sink : Sink) :
    run arguments coloured libraryFound sink =
      ⟨0, [], usage (programName arguments.head?) ++ "\n"⟩ := by
  rw [run, h]
  rfl

theorem run_of_refusal {arguments : List Argument} {refusal : Refusal}
    (h : parse arguments = .error refusal) (coloured libraryFound : Bool) (sink : Sink) :
    run arguments coloured libraryFound sink =
      ⟨1, [], usage (programName arguments.head?) ++ "\n"⟩ := by
  rw [run, h]
  rfl

theorem parse_eq_error_iff (arguments : List Argument) :
    (∃ refusal, parse arguments = .error refusal) ↔
      1 < arguments.length ∧
        ¬∃ program argument, arguments = [program, argument] ∧ AsksHelp argument := by
  rw [← parse_eq_help_iff, ← Nat.not_le, ← parse_eq_generate_iff]
  cases parse arguments with
  | error refusal => exact iff_of_true ⟨refusal, rfl⟩ ⟨nofun, nofun⟩
  | ok request =>
    cases request with
    | generate => exact iff_of_false nofun fun h => h.1 rfl
    | help => exact iff_of_false nofun fun h => h.2 rfl

theorem length_le_one_of_output_ne_nil {arguments : List Argument} {coloured libraryFound : Bool}
    {sink : Sink} (h : (run arguments coloured libraryFound sink).output ≠ []) :
    arguments.length ≤ 1 := by
  rw [← parse_eq_generate_iff]
  cases hparse : parse arguments with
  | error refusal =>
    rw [run_of_refusal hparse] at h
    exact absurd rfl h
  | ok request =>
    cases request with
    | generate => rfl
    | help =>
      rw [run_of_help hparse] at h
      exact absurd rfl h

/-- The program accepts no argument, or one that asks for help; it refuses every other command line.
Only without arguments does it write any output. Otherwise it leaves just the line of its usage
among the errors, with the one name that it has. -/
theorem accepts_three_commandLines (arguments : List Argument) (coloured libraryFound : Bool)
    (sink : Sink) :
    (parse arguments = .ok .generate ↔ arguments.length ≤ 1) ∧
      (parse arguments = .ok .help ↔
        ∃ program argument, arguments = [program, argument] ∧ AsksHelp argument) ∧
      ((∃ refusal, parse arguments = .error refusal) ↔
        1 < arguments.length ∧
          ¬∃ program argument, arguments = [program, argument] ∧ AsksHelp argument) ∧
      ((run arguments coloured libraryFound sink).output ≠ [] → arguments.length ≤ 1) ∧
      ∃ name, (∀ other, Names arguments.head? other ↔ other = name) ∧
        (parse arguments = .ok .help → run arguments coloured libraryFound sink =
          ⟨0, [], "Usage: " ++ name ++ " [--help|-h]" ++ "\n"⟩) ∧
        ∀ refusal, parse arguments = .error refusal → run arguments coloured libraryFound sink =
          ⟨1, [], "Usage: " ++ name ++ " [--help|-h]" ++ "\n"⟩ :=
  ⟨parse_eq_generate_iff arguments, parse_eq_help_iff arguments, parse_eq_error_iff arguments,
    length_le_one_of_output_ne_nil, programName arguments.head?, names_iff arguments.head?,
    fun h => run_of_help h coloured libraryFound sink,
    fun _ h => run_of_refusal h coloured libraryFound sink⟩

/-- A name that is no valid text, with a directory before it and slashes and a dot behind it. -/
def unusualPath : Argument :=
  Text.utf8 "../b" ++ [0xff] ++ Text.utf8 "//./"

theorem finalComponent_unusualPath : FinalComponent unusualPath (Text.utf8 "b" ++ [0xff]) where
  nonempty := by decide
  noSlash := by decide
  notDot := by decide
  notTwoDots := by decide
  stands := ⟨Text.utf8 "../", [Text.utf8 "/", Text.utf8 "/.", Text.utf8 "/"], rfl,
    Or.inr ⟨Text.utf8 "..", rfl⟩, by decide⟩

/-- Help for a program with an unusual path, and letters after the one for help, refused. -/
theorem help_and_cluster_answered :
    run [unusualPath, Text.utf8 "-h"] false false {} = ⟨0, [], "Usage: b\ufffd [--help|-h]\n"⟩ ∧
      run [unusualPath, Text.utf8 "-hx"] false false {} =
        ⟨1, [], "Usage: b\ufffd [--help|-h]\n"⟩ := by
  have hname : Names (some unusualPath) "b\ufffd" := .component finalComponent_unusualPath
  constructor
  · obtain ⟨-, hhelp, -, -, name, hnames, hrun, -⟩ :=
      accepts_three_commandLines [unusualPath, Text.utf8 "-h"] false false {}
    rw [← (hnames _).mp hname] at hrun
    exact hrun (hhelp.mpr ⟨_, _, rfl, Or.inl rfl⟩)
  · obtain ⟨-, -, hrefused, -, name, hnames, -, hrun⟩ :=
      accepts_three_commandLines [unusualPath, Text.utf8 "-hx"] false false {}
    rw [← (hnames _).mp hname] at hrun
    have hcluster : ¬∃ program argument,
        [unusualPath, Text.utf8 "-hx"] = [program, argument] ∧ AsksHelp argument := by
      rintro ⟨_, _, harguments, hhelp⟩
      obtain ⟨-, hargument⟩ := List.cons.inj harguments
      obtain ⟨rfl, -⟩ := List.cons.inj hargument
      rcases hhelp with h | h <;> exact absurd h (by decide)
    obtain ⟨refusal, hrefusal⟩ := hrefused.mpr ⟨Nat.lt_succ_self 1, hcluster⟩
    exact hrun refusal hrefusal

end CommandLine

end AbiBindings
