import Mathlib.Data.List.Basic
import Mathlib.Data.Nat.Notation

/-!
# The web server

With the hosts file, the requests for blocked hosts go to the device itself, where `webserver.c`
answers them: with an icon or with nothing, and with a test page under one path. `WebServerUtils`
starts it with the path of its resources, in a command line that the shell splits into words.

`parse_cli_parameters` copies that path into buffers of 100 bytes, with `strcpy` and `strcat`. They do
not look at the size, and the longest suffix leaves room for 80 bytes. Of several paths the last one
counts, but each is copied.

## What is left open

The files that are read, the shell, and everything that the library of the server does: listening,
the requests, and the files it serves. Its log and the score of the out-of-memory killer are left out.

## Main definitions

* `parseCliParameters` — the settings, unless a buffer overflows
* `fn` — the reply to a request
* `startWebServer` — the command line
* `resourceArguments` — the paths that are copied

## Main results

* `webserver_replies` — when no buffer overflows, and what is then served
* `startWebServer_settings` — the settings that the application asks for
-/

namespace AdAway

/-! ### The buffers -/

/-- The size of the buffers of `webserver.c`. -/
def bufferSize : ℕ := 100

/-- `strcpy` into a buffer, with the final zero; `none` when it writes past the end. -/
def strcpy (src : String) : Option String :=
  if src.utf8ByteSize + 1 ≤ bufferSize then some src else none

/-- `strcat` onto the text of a buffer. -/
def strcat (dst src : String) : Option String := strcpy (dst ++ src)

/-- A path in the resources, as it is built in a buffer. -/
def resourceBuffer (resourcePath suffix : String) : Option String := do
  let path ← strcpy resourcePath
  strcat path suffix

/-! ### The settings -/

/-- `struct settings`. -/
structure WebServerSettings where
  init : Bool
  cert : Option (List UInt8)
  key : Option (List UInt8)
  testPath : String
  iconPath : String
  icon : Bool
  debug : Bool
  deriving DecidableEq

namespace WebServerSettings

/-- The initializer. -/
def initial : WebServerSettings := ⟨false, none, none, "", "", false, false⟩

/-- The options without an argument. -/
def withOption (s : WebServerSettings) (arg : String) : WebServerSettings :=
  if arg = "--icon" then { s with icon := true }
  else if arg = "--debug" then { s with debug := true }
  else s

/-- The branch of `--resources`. -/
def withResources (readFile : String → Option (List UInt8)) (resourcePath : String)
    (s : WebServerSettings) : Option WebServerSettings := do
  let certPath ← resourceBuffer resourcePath "/localhost-2410.crt"
  let keyPath ← resourceBuffer resourcePath "/localhost-2410.key"
  let iconPath ← resourceBuffer resourcePath "/icon.svg"
  let testPath ← resourceBuffer resourcePath "/test.html"
  return { s with
    init := true, cert := readFile certPath, key := readFile keyPath, testPath := testPath,
    iconPath := iconPath }

end WebServerSettings

/-- The loop of `parse_cli_parameters`, from an argument on. -/
def parseArguments (readFile : String → Option (List UInt8)) :
    List String → WebServerSettings → Option WebServerSettings
  | [], s => some s
  | [arg], s => some (s.withOption arg)
  | arg :: next :: args, s =>
    if arg = "--resources" then
      (s.withResources readFile next).bind fun s => parseArguments readFile args s
    else parseArguments readFile (next :: args) (s.withOption arg)

/-- `parse_cli_parameters`; `none` when a buffer overflows. -/
def parseCliParameters (readFile : String → Option (List UInt8)) (argv : List String) :
    Option WebServerSettings :=
  parseArguments readFile argv.tail .initial

/-! ### The replies -/

/-- What a request is answered with. -/
inductive HttpReply
  /-- `mg_http_serve_file`. -/
  | file (path : String)
  /-- `mg_http_reply`, with an empty body. -/
  | empty
  deriving DecidableEq, Repr

/-- `fn`, for a request. -/
def fn (s : WebServerSettings) (uri : String) : HttpReply :=
  if uri = "/internal-test" then .file s.testPath
  else if s.icon then .file s.iconPath
  else .empty

/-! ### The command line -/

/-- `ShellUtils.runBundledExecutable`: the command. -/
def runBundledExecutable (nativeLibraryDir executable parameters : String) : String :=
  "LD_LIBRARY_PATH=" ++ nativeLibraryDir ++ " " ++ nativeLibraryDir ++ "/" ++ "lib" ++ executable ++
    "_exec.so" ++ " " ++ parameters ++ " &"

/-- `WebServerUtils.startWebServer`: the command. -/
def startWebServer (nativeLibraryDir resourcePath : String) (webServerIcon : Bool) : String :=
  let parameters := "--resources " ++ resourcePath ++ (if webServerIcon then " --icon" else "") ++
    " > /dev/null 2>&1"
  runBundledExecutable nativeLibraryDir "webserver" parameters

/-- The character means nothing special to the shell. -/
def isPlain (c : Char) : Bool := c.isAlphanum || decide (c ∈ ['/', '.', '_', '-', '~', '='])

/-- The text is one word for the shell: no blank, no quote, and no tilde in front. -/
def IsPlainWord (w : String) : Prop :=
  (w.toList.head? = some '/' ∨ w.toList.head? = some '-') ∧ ∀ c ∈ w.toList, isPlain c = true

/-- An absolute path that is one word for the shell. -/
def IsPlainPath (path : String) : Prop :=
  path.toList.head? = some '/' ∧ ∀ c ∈ path.toList, isPlain c = true

/-- A shell, with the one kind of command that is run. -/
structure Shell where
  /-- The words of the program that a command starts. -/
  argv : String → List String
  /-- A variable is set, and the output is thrown away, in the background: none of that is a word of
  the program. -/
  argv_command : ∀ value program args, IsPlainPath value → IsPlainPath program →
    (∀ arg ∈ args, IsPlainWord arg) →
    argv ("LD_LIBRARY_PATH=" ++ value ++ " " ++ " ".intercalate (program :: args) ++
      " > /dev/null 2>&1 &") = program :: args

/-! ### The arguments -/

/-- The arguments that are taken as a path of the resources. -/
def resourceArguments : List String → List String
  | arg :: next :: args =>
    if arg = "--resources" then next :: resourceArguments args else resourceArguments (next :: args)
  | _ => []

/-- The arguments that are looked at as options. -/
def optionArguments : List String → List String
  | [] => []
  | [arg] => [arg]
  | arg :: next :: args =>
    if arg = "--resources" then optionArguments args else arg :: optionArguments (next :: args)

/-- The room that the longest suffix leaves for a path. -/
def maxResourcePathSize : ℕ := 80

section Arguments

variable {readFile : String → Option (List UInt8)}

theorem resourceBuffer_eq (resourcePath suffix : String) :
    resourceBuffer resourcePath suffix =
      if resourcePath.utf8ByteSize + suffix.utf8ByteSize + 1 ≤ bufferSize
      then some (resourcePath ++ suffix) else none := by
  rw [resourceBuffer, strcpy]
  split
  next h => rw [Option.bind_eq_bind, Option.bind_some, strcat, strcpy, String.utf8ByteSize_append]
  next h => rw [if_neg (by omega)]; rfl

/-- The settings of a path. -/
def WebServerSettings.ofResources (readFile : String → Option (List UInt8)) (resourcePath : String)
    (s : WebServerSettings) : WebServerSettings :=
  { s with
    init := true, cert := readFile (resourcePath ++ "/localhost-2410.crt"),
    key := readFile (resourcePath ++ "/localhost-2410.key"), testPath := resourcePath ++ "/test.html",
    iconPath := resourcePath ++ "/icon.svg" }

/-- The longest suffix decides. -/
theorem withResources_eq (resourcePath : String) (s : WebServerSettings) :
    s.withResources readFile resourcePath =
      if resourcePath.utf8ByteSize ≤ maxResourcePathSize then some (s.ofResources readFile resourcePath)
      else none := by
  have hcert : "/localhost-2410.crt".utf8ByteSize = 19 := by decide
  have hkey : "/localhost-2410.key".utf8ByteSize = 19 := by decide
  have hicon : "/icon.svg".utf8ByteSize = 9 := by decide
  have htest : "/test.html".utf8ByteSize = 10 := by decide
  rw [WebServerSettings.withResources, resourceBuffer_eq, resourceBuffer_eq, resourceBuffer_eq,
    resourceBuffer_eq, hcert, hkey, hicon, htest, bufferSize, maxResourcePathSize]
  by_cases h : resourcePath.utf8ByteSize ≤ 80
  · rw [if_pos h, if_pos (by omega), if_pos (by omega), if_pos (by omega), if_pos (by omega)]
    rfl
  · rw [if_neg h, if_neg (by omega)]
    rfl

/-- The settings after the arguments: the last path, and the options seen. -/
def settingsOf (readFile : String → Option (List UInt8)) (args : List String)
    (s : WebServerSettings) : WebServerSettings :=
  let s : WebServerSettings :=
    { s with
      icon := s.icon || decide ("--icon" ∈ optionArguments args)
      debug := s.debug || decide ("--debug" ∈ optionArguments args) }
  match (resourceArguments args).getLast? with
  | none => s
  | some resourcePath => s.ofResources readFile resourcePath

theorem withOption_eq (s : WebServerSettings) (arg : String) :
    s.withOption arg =
      { s with
        icon := s.icon || decide ("--icon" = arg)
        debug := s.debug || decide ("--debug" = arg) } := by
  rw [WebServerSettings.withOption]
  by_cases hicon : arg = "--icon"
  · rw [if_pos hicon, hicon]
    simp
  · rw [if_neg hicon]
    by_cases hdebug : arg = "--debug"
    · rw [if_pos hdebug, hdebug]
      simp
    · rw [if_neg hdebug]
      simp [Ne.symm hicon, Ne.symm hdebug]

theorem settingsOf_resources (next : String) (args : List String) (s : WebServerSettings) :
    settingsOf readFile ("--resources" :: next :: args) s =
      settingsOf readFile args (s.ofResources readFile next) := by
  rw [settingsOf, settingsOf, resourceArguments, if_pos rfl, optionArguments, if_pos rfl,
    List.getLast?_cons]
  cases (resourceArguments args).getLast? <;> rfl

theorem settingsOf_option {arg : String} (harg : arg ≠ "--resources") (next : String)
    (args : List String) (s : WebServerSettings) :
    settingsOf readFile (arg :: next :: args) s =
      settingsOf readFile (next :: args) (s.withOption arg) := by
  rw [settingsOf, settingsOf, resourceArguments, if_neg harg, optionArguments, if_neg harg,
    withOption_eq]
  simp only [List.mem_cons, Bool.decide_or, Bool.or_assoc]

/-- **What is parsed**: the settings of the last path and the options, if each path is short enough. -/
theorem parseArguments_eq (args : List String) (s : WebServerSettings) :
    parseArguments readFile args s =
      if ∀ path ∈ resourceArguments args, path.utf8ByteSize ≤ maxResourcePathSize
      then some (settingsOf readFile args s) else none := by
  fun_induction parseArguments readFile args s with
  | case1 s => simp [resourceArguments, settingsOf, optionArguments]
  | case2 s arg =>
    rw [if_pos (by simp [resourceArguments]), withOption_eq]
    simp [resourceArguments, settingsOf, optionArguments]
  | case3 next args s ih =>
    rw [withResources_eq, resourceArguments, if_pos rfl, settingsOf_resources]
    simp only [List.forall_mem_cons]
    by_cases hsize : next.utf8ByteSize ≤ maxResourcePathSize
    · rw [if_pos hsize, Option.bind_some, ih]
      simp only [hsize, true_and]
    · rw [if_neg hsize, if_neg fun h => hsize h.1]
      rfl
  | case4 s arg next args harg ih =>
    rw [ih, settingsOf_option harg, resourceArguments, if_neg harg]

/-- A file of the replies is no private key. -/
theorem append_ne_key (resourcePath other : String) :
    resourcePath ++ "/test.html" ≠ other ++ "/localhost-2410.key" ∧
      resourcePath ++ "/icon.svg" ≠ other ++ "/localhost-2410.key" := by
  have hlast : ∀ (a b : String) (c d : Char), a.toList.getLast? = some c → b.toList.getLast? = some d →
      c ≠ d → resourcePath ++ a ≠ other ++ b := by
    intro a b c d hc hd hne heq
    have htext := congrArg (fun s : String => s.toList.getLast?) heq
    simp only [String.toList_append, List.getLast?_append, hc, hd, Option.some_or] at htext
    exact hne (Option.some.inj htext)
  exact ⟨hlast _ _ 'l' 'y' (by decide) (by decide) (by decide),
    hlast _ _ 'g' 'y' (by decide) (by decide) (by decide)⟩

/-- **What the server replies**, for every list of arguments. No buffer overflows exactly if each path
of the resources has 80 bytes at most. The server then runs if there is one; it has the certificate
and the key of the last path, and what it serves is the test page and the icon of that path, but never
a private key. -/
theorem webserver_replies (readFile : String → Option (List UInt8)) (argv : List String) :
    ((parseCliParameters readFile argv).isSome ↔
      ∀ path ∈ resourceArguments argv.tail, path.utf8ByteSize ≤ 80) ∧
    ∀ s, parseCliParameters readFile argv = some s →
      (s.init = true ↔ resourceArguments argv.tail ≠ []) ∧
      ∀ resourcePath, (resourceArguments argv.tail).getLast? = some resourcePath →
        s.cert = readFile (resourcePath ++ "/localhost-2410.crt") ∧
        s.key = readFile (resourcePath ++ "/localhost-2410.key") ∧
        ∀ uri,
          fn s uri = (if uri = "/internal-test" then .file (resourcePath ++ "/test.html")
            else if "--icon" ∈ optionArguments argv.tail then .file (resourcePath ++ "/icon.svg")
            else .empty) ∧
          ∀ other, fn s uri ≠ .file (other ++ "/localhost-2410.key") := by
  rw [parseCliParameters, parseArguments_eq]
  refine ⟨by rw [Option.isSome_ite]; rfl, fun s hs => ?_⟩
  obtain ⟨-, hs⟩ := Option.ite_none_right_eq_some.mp hs
  obtain rfl := Option.some.inj hs
  constructor
  · rw [settingsOf, ← List.getLast?_isSome]
    cases (resourceArguments argv.tail).getLast? <;> simp [WebServerSettings.ofResources,
      WebServerSettings.initial]
  · intro resourcePath hlast
    rw [settingsOf, hlast]
    refine ⟨rfl, rfl, fun uri => ?_⟩
    have hreply : fn ((WebServerSettings.ofResources readFile resourcePath
        { WebServerSettings.initial with
          icon := WebServerSettings.initial.icon || decide ("--icon" ∈ optionArguments argv.tail)
          debug := WebServerSettings.initial.debug ||
            decide ("--debug" ∈ optionArguments argv.tail) })) uri =
          (if uri = "/internal-test" then .file (resourcePath ++ "/test.html")
            else if "--icon" ∈ optionArguments argv.tail then .file (resourcePath ++ "/icon.svg")
            else .empty) := by
      simp [fn, WebServerSettings.ofResources, WebServerSettings.initial]
    refine ⟨hreply, fun other => ?_⟩
    obtain ⟨htest, hicon⟩ := append_ne_key resourcePath other
    rw [hreply]
    split
    · exact fun heq => htest (HttpReply.file.inj heq)
    · split
      · exact fun heq => hicon (HttpReply.file.inj heq)
      · nofun

theorem webserver_replies_resources : ∃ s,
    parseCliParameters (fun _ => none) ["webserver", "--resources", "/data/webserver"] = some s ∧
    ∀ uri other, fn s uri ≠ .file (other ++ "/localhost-2410.key") := by
  obtain ⟨hfits, hreplies⟩ := webserver_replies (fun _ => none)
    ["webserver", "--resources", "/data/webserver"]
  obtain ⟨s, hs⟩ := Option.isSome_iff_exists.mp (hfits.mpr (by decide))
  obtain ⟨-, -, huri⟩ := (hreplies s hs).2 "/data/webserver" rfl
  exact ⟨s, hs, fun uri => (huri uri).2⟩

end Arguments

/-! ### From the application to the server -/

theorem startWebServer_eq (nativeLibraryDir resourcePath : String) (webServerIcon : Bool) :
    startWebServer nativeLibraryDir resourcePath webServerIcon =
      "LD_LIBRARY_PATH=" ++ nativeLibraryDir ++ " " ++
        " ".intercalate ((nativeLibraryDir ++ "/libwebserver_exec.so") ::
          "--resources" :: resourcePath :: if webServerIcon then ["--icon"] else []) ++
        " > /dev/null 2>&1 &" := by
  unfold startWebServer runBundledExecutable
  rw [← String.toList_inj]
  simp only [String.toList_append, String.toList_intercalate, List.map_cons]
  cases webServerIcon with
  | true => simp
  | false => simp

/-- **The settings that the application asks for.** The command line of `WebServerUtils` is parsed as
the path of the resources and the preference of the icon, if the path is short enough; a longer path
overflows a buffer. -/
theorem startWebServer_settings (sh : Shell) (readFile : String → Option (List UInt8))
    {nativeLibraryDir resourcePath : String} (hdir : IsPlainPath nativeLibraryDir)
    (hpath : IsPlainPath resourcePath) (webServerIcon : Bool) :
    parseCliParameters readFile (sh.argv (startWebServer nativeLibraryDir resourcePath webServerIcon)) =
      if resourcePath.utf8ByteSize ≤ 80 then
        some ⟨true, readFile (resourcePath ++ "/localhost-2410.crt"),
          readFile (resourcePath ++ "/localhost-2410.key"), resourcePath ++ "/test.html",
          resourcePath ++ "/icon.svg", webServerIcon, false⟩
      else none := by
  have hprogram : IsPlainPath (nativeLibraryDir ++ "/libwebserver_exec.so") := by
    have hname : ∀ c ∈ "/libwebserver_exec.so".toList, isPlain c = true :=
      List.all_eq_true.mp (by decide)
    refine ⟨by rw [String.toList_append, List.head?_append, hdir.1]; rfl, fun c hc => ?_⟩
    rw [String.toList_append, List.mem_append] at hc
    exact hc.elim (hdir.2 c) (hname c)
  have hargs : ∀ arg ∈ "--resources" :: resourcePath :: (if webServerIcon then ["--icon"] else []),
      IsPlainWord arg := by
    have hoption : ∀ arg ∈ ["--resources", "--icon"], IsPlainWord arg := by
      simp only [List.forall_mem_cons]
      exact ⟨⟨Or.inr (by decide), List.all_eq_true.mp (by decide)⟩,
        ⟨Or.inr (by decide), List.all_eq_true.mp (by decide)⟩, List.forall_mem_nil _⟩
    intro arg harg
    rcases List.mem_cons.mp harg with rfl | harg
    · exact hoption _ (by simp)
    · rcases List.mem_cons.mp harg with rfl | harg
      · exact ⟨Or.inl hpath.1, hpath.2⟩
      · split at harg
        · obtain rfl := List.mem_singleton.mp harg
          exact hoption _ (by simp)
        · exact absurd harg List.not_mem_nil
  rw [startWebServer_eq, sh.argv_command _ _ _ hdir hprogram hargs, parseCliParameters, List.tail_cons,
    parseArguments_eq, settingsOf_resources]
  cases webServerIcon with
  | true =>
    simp [resourceArguments, optionArguments, settingsOf, WebServerSettings.ofResources,
      WebServerSettings.initial, maxResourcePathSize]
  | false =>
    simp [resourceArguments, optionArguments, settingsOf, WebServerSettings.ofResources,
      WebServerSettings.initial, maxResourcePathSize]

/-- The words between blanks, up to the first redirection and without the variable in front. -/
def blankWords (command : String) : List String :=
  ((command.toList.splitOn ' ').tail.takeWhile fun w => w ≠ ['>']).map String.ofList

theorem not_mem_of_isPlain {cs : List Char} (h : ∀ c ∈ cs, isPlain c = true) : ' ' ∉ cs :=
  fun hmem => absurd (h ' ' hmem) (by decide)

theorem ne_redirection_of_isPlain {cs : List Char} (h : ∀ c ∈ cs, isPlain c = true) : cs ≠ ['>'] := by
  rintro rfl
  exact absurd (h '>' (List.mem_singleton_self _)) (by decide)

theorem intercalate_append {sep : List Char} {parts parts' : List (List Char)} (h : parts ≠ [])
    (h' : parts' ≠ []) :
    sep.intercalate (parts ++ parts') = sep.intercalate parts ++ sep ++ sep.intercalate parts' := by
  induction parts with
  | nil => exact absurd rfl h
  | cons part parts ih =>
    cases parts with
    | nil => rw [List.singleton_append, List.intercalate_cons_of_ne_nil h', List.intercalate_singleton]
    | cons next parts =>
      rw [List.cons_append, List.intercalate_cons_of_ne_nil (by simp),
        List.intercalate_cons_of_ne_nil (by simp), ih (by simp)]
      simp only [List.append_assoc]

/-- The words of a command, when none has a blank. -/
theorem blankWords_command {value : String} {words : List String} (hne : words ≠ [])
    (hvalue : ∀ c ∈ value.toList, isPlain c = true)
    (hwords : ∀ w ∈ words, ∀ c ∈ w.toList, isPlain c = true) :
    blankWords ("LD_LIBRARY_PATH=" ++ value ++ " " ++ " ".intercalate words ++ " > /dev/null 2>&1 &")
      = words := by
  let parts := words.map String.toList
  let behind : List (List Char) := [['>'], "/dev/null".toList, "2>&1".toList, ['&']]
  have hparts : ∀ part ∈ parts, ∀ c ∈ part, isPlain c = true := by
    intro part hpart
    obtain ⟨w, hw, rfl⟩ := List.mem_map.mp hpart
    exact hwords w hw
  have htext : ("LD_LIBRARY_PATH=" ++ value ++ " " ++ " ".intercalate words ++
        " > /dev/null 2>&1 &").toList =
      [' '].intercalate (("LD_LIBRARY_PATH=".toList ++ value.toList) :: (parts ++ behind)) := by
    rw [List.intercalate_cons_of_ne_nil (by simp [behind]),
      intercalate_append (by simpa [parts] using hne) (by simp [behind])]
    simp [String.toList_intercalate, parts, behind, List.intercalate]
  have hblank : ∀ part ∈ ("LD_LIBRARY_PATH=".toList ++ value.toList) :: (parts ++ behind),
      ' ' ∉ part := by
    have hbehind : ∀ part ∈ behind, ' ' ∉ part := by decide
    intro part hpart
    rcases List.mem_cons.mp hpart with rfl | hpart
    · rw [List.mem_append]
      exact fun hmem => hmem.elim (by decide) (not_mem_of_isPlain hvalue)
    · rcases List.mem_append.mp hpart with hpart | hpart
      · exact not_mem_of_isPlain (hparts part hpart)
      · exact hbehind part hpart
  rw [blankWords, htext, List.splitOn_intercalate ' ' hblank (List.cons_ne_nil _ _), List.tail_cons,
    List.takeWhile_append_of_pos (fun part hpart => by
      simpa using ne_redirection_of_isPlain (hparts part hpart))]
  simp [behind, parts]

/-- A shell that splits at blanks. -/
def blankShell : Shell where
  argv := blankWords
  argv_command := by
    intro value program args hvalue hprogram hargs
    refine blankWords_command (List.cons_ne_nil _ _) hvalue.2 fun w hw => ?_
    rcases List.mem_cons.mp hw with rfl | hw
    · exact hprogram.2
    · exact (hargs w hw).2

theorem startWebServer_settings_icon :
    parseCliParameters (fun _ => none) (blankShell.argv
        (startWebServer "/data/app/~~x==/org.adaway/lib/arm64" "/data/data/org.adaway/files/webserver"
          true))
      = some ⟨true, none, none, "/data/data/org.adaway/files/webserver/test.html",
          "/data/data/org.adaway/files/webserver/icon.svg", true, false⟩ := by
  have hdir : IsPlainPath "/data/app/~~x==/org.adaway/lib/arm64" :=
    ⟨by decide, List.all_eq_true.mp (by decide)⟩
  have hpath : IsPlainPath "/data/data/org.adaway/files/webserver" :=
    ⟨by decide, List.all_eq_true.mp (by decide)⟩
  have hsize : "/data/data/org.adaway/files/webserver".utf8ByteSize ≤ 80 := by decide
  rw [startWebServer_settings blankShell (fun _ => none) hdir hpath true, if_pos hsize]
  rfl

end AdAway
