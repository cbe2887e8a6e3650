import PageSketch.Proofs.Command.Settings
import PageSketch.Session.Episode

/-!
# The key stays secret

Two runs with settings that differ in nothing but the key are compared. The key goes to the client
with the question and nowhere else: when the client answers the same, the generations come to the same
outcome and note the same, and sessions in which they run stay the same. Showing the settings tells
the beginning of the key and no more.
-/

namespace PageSketch

/-! ## Settings that differ in the key -/

/-- Whether settings agree on everything but the key. -/
def AgreeButForKey (texts texts' : String → Option String) : Prop :=
  ∀ name, name ≠ SettingKey.apiKey.name → texts name = texts' name

/-- Whether a client answers questions the same with either key. -/
def Chat.Client.AnswersAlike (client : Chat.Client) (key key' : String) : Prop :=
  ∀ url request, (client.complete ⟨url, key⟩ request).result =
    (client.complete ⟨url, key'⟩ request).result

/-- Whether a client takes the same time and notes the same with either key. -/
def Chat.Client.BehavesAlike (client : Chat.Client) (key key' : String) : Prop :=
  ∀ url request, (client.complete ⟨url, key⟩ request).wait =
      (client.complete ⟨url, key'⟩ request).wait ∧
    (client.complete ⟨url, key⟩ request).notes = (client.complete ⟨url, key'⟩ request).notes

/-- How two calls agree whose questions go out with different keys. -/
structure Call.AgreeButForKey (client : Chat.Client) (key key' : String) (call call' : Call) :
    Prop where
  status : call.outcome.status = call'.outcome.status
  message : call.outcome.message = call'.outcome.message
  violations : call.outcome.violations = call'.outcome.violations
  opening : call.opening = call'.opening
  /-- The questions are the same but for the key, and behind what the client notes about them the
  same is noted. -/
  closing : ∃ url request notes,
    call.asked = some (⟨url, key⟩, request) ∧ call'.asked = some (⟨url, key'⟩, request) ∧
      call.closing = (client.complete ⟨url, key⟩ request).notes ++ notes ∧
      call'.closing = (client.complete ⟨url, key'⟩ request).notes ++ notes

/-! ## Generations -/

/-- An outcome is its status and the violations that were reported. -/
theorem Outcome.eq_of_status_eq {outcome outcome' : Outcome}
    (hstatus : outcome.status = outcome'.status)
    (hviolations : outcome.violations = outcome'.violations) : outcome = outcome' := by
  cases outcome
  cases outcome'
  cases hstatus
  cases hviolations
  rfl

/-- What is noted before a question does not depend on the key. -/
theorem askingNote_eq (name url key key' : String) (request : Chat.Request) :
    askingNote name ⟨url, key⟩ request = askingNote name ⟨url, key'⟩ request := rfl

section

variable {options : Options} {client : Chat.Client} {settings settings' : Settings}
  {key key' text : String}

/-- The plans for settings that agree but for the key are to ask the same but for the key. -/
theorem exists_plan_agree (options : Options) (text : String)
    (hagree : AgreeButForKey settings.get? settings'.get?)
    (hkey : settings.get? SettingKey.apiKey.name = some key)
    (hkey' : settings'.get? SettingKey.apiKey.name = some key')
    (hfilled : Text.trim key ≠ "") (hfilled' : Text.trim key' ≠ "") :
    ∃ url request, plan options settings.forModel text = .ask ⟨url, Text.trim key⟩ request ∧
      plan options settings'.forModel text = .ask ⟨url, Text.trim key'⟩ request := by
  have hbaseUrl := hagree "nl2ui_base_url" (by decide)
  have hmodel := hagree "nl2ui_model" (by decide)
  refine ⟨_, _, plan_forModel options text hkey hfilled, ?_⟩
  rw [plan_forModel options text hkey' hfilled', questionFor, questionFor, hbaseUrl, hmodel]

/-- A generation that asks a question notes the question first, and then what the client notes and
what is concluded from the answer. -/
theorem generate_of_ask {settings : ModelSettings} {endpoint : Chat.Endpoint}
    {request : Chat.Request} (h : plan options settings text = .ask endpoint request) :
    generate options client settings text =
      ⟨[askingNote client.name endpoint request], some (endpoint, request),
        (client.complete endpoint request).wait,
        (client.complete endpoint request).notes ++
          (concludeReply options.validation (client.complete endpoint request).result).notes,
        (concludeReply options.validation (client.complete endpoint request).result).outcome⟩ := by
  rw [generate, h]

/-- Generations whose settings agree but for the key agree but for the key, when the client answers
the same. -/
theorem generate_agreeButForKey (options : Options) (text : String)
    (hagree : AgreeButForKey settings.get? settings'.get?)
    (hkey : settings.get? SettingKey.apiKey.name = some key)
    (hkey' : settings'.get? SettingKey.apiKey.name = some key')
    (hfilled : Text.trim key ≠ "") (hfilled' : Text.trim key' ≠ "")
    (hanswers : client.AnswersAlike (Text.trim key) (Text.trim key')) :
    Call.AgreeButForKey client (Text.trim key) (Text.trim key')
      (generate options client settings.forModel text)
      (generate options client settings'.forModel text) := by
  obtain ⟨url, request, hplan, hplan'⟩ :=
    exists_plan_agree options text hagree hkey hkey' hfilled hfilled'
  rw [generate_of_ask hplan, generate_of_ask hplan', hanswers url request]
  constructor
  case status => rfl
  case message => rfl
  case violations => rfl
  case opening => exact congrArg (fun note => [note]) (askingNote_eq ..)
  case closing => exact ⟨url, request, _, rfl, rfl, rfl, rfl⟩

/-- On a world, settings that agree but for the key lead to the same, when the client answers and
behaves the same. -/
theorem run_carryOut_agree (directory : Option Path)
    (hagree : Call.AgreeButForKey client key key'
      (generate options client settings.forModel text)
      (generate options client settings'.forModel text))
    (hbehaves : client.BehavesAlike key key') (world : World) :
    (Command.carryOut (World.host directory client) options settings.forModel text).run world =
      (Command.carryOut (World.host directory client) options settings'.forModel text).run world := by
  obtain ⟨url, request, notes, -, -, hclosing, hclosing'⟩ := hagree.closing
  have houtcome : (generate options client settings.forModel text).outcome =
      (generate options client settings'.forModel text).outcome :=
    Outcome.eq_of_status_eq hagree.status hagree.violations
  rw [Command.run_carryOut, Command.run_carryOut, houtcome, hagree.opening, hclosing, hclosing',
    (hbehaves url request).2]

end

/-! ## Sessions -/

namespace Session

/-- What a call does to a session depends on the status of its outcome alone. -/
theorem session_run_congr (session : Session) {call call' : Call}
    (h : call.outcome.status = call'.outcome.status) :
    (session.run call).session = (session.run call').session := by
  unfold run
  cases session.begin? with
  | none => rfl
  | some admitted => simp only [finish, commit, h]

/-- The session after calls for requests, one after another. -/
def after (call : String → Call) (session : Session) (texts : List String) : Session :=
  texts.foldl (fun session text => (session.run (call text)).session) session

/-- Calls that end with the same status do the same to a session. -/
theorem after_congr {call call' : String → Call} {texts : List String}
    (h : ∀ text ∈ texts, (call text).outcome.status = (call' text).outcome.status)
    (session : Session) : session.after call texts = session.after call' texts := by
  induction texts generalizing session with
  | nil => rfl
  | cons text rest ih =>
    obtain ⟨htext, hrest⟩ := List.forall_mem_cons.mp h
    rw [after, after, List.foldl_cons, List.foldl_cons, session_run_congr session htext]
    exact ih hrest _

end Session

/-! ## Showing settings -/

namespace World

/-- Notes add nothing to the output. -/
theorem output_noting (world : World) (notes : List LogEntry) :
    (world.noting notes).output = world.output := by
  induction notes generalizing world with
  | nil => rw [noting_nil]
  | cons entry rest ih =>
    have hnoting : world.noting (entry :: rest) = (world.noting [entry]).noting rest := by
      rw [noting_noting, List.singleton_append]
    rw [hnoting, ih]
    simp [output, noting, String.join_append]

/-- Lines add their text to the output. -/
theorem output_printing (world : World) (lines : List String) :
    (world.printing lines).output = world.output ++ String.join (lines.map (· ++ "\n")) := by
  rw [output, output, printing, List.map_append, List.map_map, String.join_append]
  rfl

end World

section

variable (directory : Option Path) (client : Chat.Client) {path : Path} {settings settings' : Settings}

/-- On a world, loading settings gives those in the file and does nothing but note. -/
theorem Settings.exists_run_load (path : Path) (world : World) :
    ∃ notes, (Settings.load (World.host directory client) path).run world =
      pure (Settings.inFile world.files world.directory path, world.noting notes) := by
  have hentry : ((World.host directory client).hasEntry path).run world =
      pure (world.files.hasEntry world.directory path, world) := rfl
  have htext : ((World.host directory client).readText path).run world =
      pure (world.files.readText world.directory path, world) := rfl
  rw [Settings.load, Settings.inFile, StateT.run_bind, hentry, pure_bind]
  cases world.files.hasEntry world.directory path with
  | error fault => exact ⟨[], by rw [World.noting_nil]; rfl⟩
  | ok present =>
    cases present with
    | false => exact ⟨[], by rw [World.noting_nil]; rfl⟩
    | true =>
      simp only
      rw [StateT.run_bind, htext, pure_bind]
      cases world.files.readText world.directory path with
      | error fault => exact ⟨[], by rw [World.noting_nil]; rfl⟩
      | ok text =>
        simp only
        cases Settings.read text with
        | error fault => exact ⟨[], by rw [World.noting_nil]; rfl⟩
        | ok settings => exact ⟨[Settings.loadedNote path], rfl⟩

namespace Command

/-- The lines that show settings. -/
def shownLines (path : Path) (settings : Settings) : List String :=
  ("# " ++ path.text) :: SettingKey.all.map (settingLine settings)

/-- On a world, showing the settings of a file prints their lines and does nothing else but note. -/
theorem exists_run_showSettings {world : World}
    (hloads : Settings.inFile world.files world.directory path = .ok settings) :
    ∃ notes, (runTask (World.host directory client) path .showSettings).run.run world =
      pure (.ok 0, (world.noting notes).printing (shownLines path settings)) := by
  obtain ⟨notes, hload⟩ := Settings.exists_run_load directory client path world
  have hact : (orFail .settings (Settings.load (World.host directory client) path)).run.run world =
      pure (.ok settings, world.noting notes) := by
    unfold orFail
    rw [ExceptT.run_mk, StateT.run_bind, hload, pure_bind, hloads]
    rfl
  have hprint : ∀ (lines : List String) (world : World),
      (liftM ((World.host directory client).printAll lines) :
        Act (StateM World) Unit).run.run world = pure (.ok (), world.printing lines) :=
    fun lines world => run_lift_act (World.run_printAll directory client lines world)
  refine ⟨notes, ?_⟩
  rw [runTask, runShow, run_bind_act, StateT.run_bind, hact, pure_bind]
  simp only
  rw [run_bind_act, StateT.run_bind, hprint, pure_bind]
  rfl

/-- The line of the key shows three characters of it, and the other lines do not show it. -/
theorem settingLine_congr (hagree : AgreeButForKey settings.get? settings'.get?)
    (hstart : (settings.get? SettingKey.apiKey.name).map (·.toList.take 3) =
      (settings'.get? SettingKey.apiKey.name).map (·.toList.take 3)) (key : SettingKey) :
    settingLine settings key = settingLine settings' key := by
  by_cases hkey : key = .apiKey
  · subst hkey
    unfold settingLine
    congr 1
    cases htext : settings.get? SettingKey.apiKey.name with
    | none =>
      rw [htext, Option.map_none] at hstart
      rw [Option.map_eq_none_iff.mp hstart.symm]
    | some text =>
      rw [htext, Option.map_some] at hstart
      obtain ⟨text', htext', htake⟩ := Option.map_eq_some_iff.mp hstart.symm
      rw [htext']
      simp only [if_true, mask, htake]
  · have hname : key.name ≠ SettingKey.apiKey.name := fun h => hkey (SettingKey.name_injective h)
    rw [settingLine, settingLine, hagree key.name hname]

/-- Settings that agree but for keys with the same beginning are shown in the same lines. -/
theorem shownLines_congr (hagree : AgreeButForKey settings.get? settings'.get?)
    (hstart : (settings.get? SettingKey.apiKey.name).map (·.toList.take 3) =
      (settings'.get? SettingKey.apiKey.name).map (·.toList.take 3)) (path : Path) :
    shownLines path settings = shownLines path settings' := by
  rw [shownLines, shownLines, List.map_congr_left fun key _ => settingLine_congr hagree hstart key]

/-- An invocation that shows the settings of a file that holds a map prints the lines of the map. -/
theorem exists_run_show {invocation : Invocation} {world : World} {map : String → Option String}
    (hpath : settingsPath (World.host directory client) invocation = .ok path)
    (htask : invocation.task = .showSettings)
    (hholds : Settings.Holds world.files world.directory path map) :
    ∃ settings world', settings.get? = map ∧
      (run (World.host directory client) invocation).run world = pure (.ok 0, world') ∧
      world'.output = world.output ++ String.join ((shownLines path settings).map (· ++ "\n")) := by
  obtain ⟨settings, hloads, hget⟩ := hholds.exists_inFile
  obtain ⟨notes, hrun⟩ := exists_run_showSettings directory client hloads
  refine ⟨settings, (world.noting notes).printing (shownLines path settings), hget, ?_, ?_⟩
  · rw [run, hpath, htask]
    exact hrun
  · rw [World.output_printing, World.output_noting]

end Command

end

/-- The key does not leak. Generations with settings that agree but for keys that are not blank come
to the same status, status line and violations and note the same, when the client answers the same,
and so do whole sessions of them; on a world nothing differs at all when the client behaves the same.
Showing settings that agree but for keys with the same first three characters prints the same text. -/
theorem key_does_not_leak :
    (∀ (options : Options) (client : Chat.Client) (settings settings' : Settings)
      (key key' : String),
      AgreeButForKey settings.get? settings'.get? →
      settings.get? "nl2ui_api_key" = some key → settings'.get? "nl2ui_api_key" = some key' →
      Text.trim key ≠ "" → Text.trim key' ≠ "" →
      client.AnswersAlike (Text.trim key) (Text.trim key') →
      (∀ text, Call.AgreeButForKey client (Text.trim key) (Text.trim key')
        (generate options client settings.forModel text)
        (generate options client settings'.forModel text)) ∧
      (∀ (session : Session) (texts : List String),
        session.after (generate options client settings.forModel) texts =
          session.after (generate options client settings'.forModel) texts) ∧
      (client.BehavesAlike (Text.trim key) (Text.trim key') →
        ∀ (directory : Option Path) (world : World) (text : String),
          (Command.carryOut (World.host directory client) options settings.forModel text).run world =
            (Command.carryOut (World.host directory client) options settings'.forModel
              text).run world)) ∧
    ∀ (directory directory' : Option Path) (client client' : Chat.Client) (path : Path)
      (invocation invocation' : Command.Invocation) (world world' : World)
      (map other : String → Option String),
      Command.settingsPath (World.host directory client) invocation = .ok path →
      Command.settingsPath (World.host directory' client') invocation' = .ok path →
      invocation.task = .showSettings → invocation'.task = .showSettings →
      Settings.Holds world.files world.directory path map →
      Settings.Holds world'.files world'.directory path other →
      AgreeButForKey map other →
      (map "nl2ui_api_key").map (·.toList.take 3) = (other "nl2ui_api_key").map (·.toList.take 3) →
      ∃ shown after after',
        (Command.run (World.host directory client) invocation).run world =
          pure (.ok 0, after) ∧
        (Command.run (World.host directory' client') invocation').run world' =
          pure (.ok 0, after') ∧
        after.output = world.output ++ shown ∧ after'.output = world'.output ++ shown := by
  refine ⟨?_, ?_⟩
  · intro options client settings settings' key key' hagree hkey hkey' hfilled hfilled' hanswers
    have hcalls := fun text =>
      generate_agreeButForKey options text hagree hkey hkey' hfilled hfilled' hanswers
    refine ⟨hcalls, fun session texts => ?_, fun hbehaves directory world text => ?_⟩
    · exact Session.after_congr (fun text _ => (hcalls text).status) session
    · exact run_carryOut_agree directory (hcalls text) hbehaves world
  · intro directory directory' client client' path invocation invocation' world world' map other
      hpath hpath' htask htask' hholds hholds' hagree hstart
    obtain ⟨settings, after, rfl, hrun, houtput⟩ :=
      Command.exists_run_show directory client hpath htask hholds
    obtain ⟨settings', after', rfl, hrun', houtput'⟩ :=
      Command.exists_run_show directory' client' hpath' htask' hholds'
    rw [← Command.shownLines_congr hagree hstart] at houtput'
    exact ⟨_, after, after', hrun, hrun', houtput, houtput'⟩

/-! ## Two keys with the same beginning -/

/-- A machine whose settings file has the text of settings. -/
def writtenWorld (settings : Settings) : World := Command.settingsWorld settings.text

/-- The settings file holds the map of the settings. -/
theorem holds_writtenWorld (settings : Settings) :
    Settings.Holds (writtenWorld settings).files (writtenWorld settings).directory ⟨"settings"⟩
      settings.get? := by
  obtain ⟨entries, hspells, hget⟩ := Settings.read_eq_ok_iff.mp settings.read_text
  exact Command.holds_settingsWorld hspells hget

/-- A client that answers every question that comes with a key. -/
def keyedClient : Chat.Client where
  name := "stub"
  complete endpoint _ :=
    ⟨none, if endpoint.apiKey = "" then .error (.http 401) else .ok menuReply, []⟩

/-- Two keys with the same first three characters lead to the same status lines and sessions, and are
shown alike. -/
theorem key_does_not_leak_sample :
    let settings := (Settings.ofList [("nl2ui_model", "m")]).set "nl2ui_api_key" "sk-first"
    let settings' := (Settings.ofList [("nl2ui_model", "m")]).set "nl2ui_api_key" "sk-second\n"
    let call := generate .standard keyedClient settings.forModel
    let other := generate .standard keyedClient settings'.forModel
    let showing := Command.run (World.host none keyedClient) ⟨some ⟨"settings"⟩, .showSettings⟩
    (call "menu").outcome.message = (other "menu").outcome.message ∧
      Session.fresh.after call ["menu", "form"] = Session.fresh.after other ["menu", "form"] ∧
      ∃ shown after after', showing.run (writtenWorld settings) = pure (.ok 0, after) ∧
        showing.run (writtenWorld settings') = pure (.ok 0, after') ∧
        after.output = shown ∧ after'.output = shown := by
  intro settings settings' call other showing
  obtain ⟨hgenerations, hshows⟩ := key_does_not_leak
  have hagree : AgreeButForKey settings.get? settings'.get? := by
    intro name hname
    exact (Settings.get?_set_of_ne _ hname _).trans (Settings.get?_set_of_ne _ hname _).symm
  have hkey : settings.get? "nl2ui_api_key" = some "sk-first" := Settings.get?_set_self ..
  have hkey' : settings'.get? "nl2ui_api_key" = some "sk-second\n" := Settings.get?_set_self ..
  have hfilled : Text.trim "sk-first" ≠ "" := by decide
  have hfilled' : Text.trim "sk-second\n" ≠ "" := by decide
  have hanswers : keyedClient.AnswersAlike (Text.trim "sk-first") (Text.trim "sk-second\n") := by
    intro url request
    simp only [keyedClient, if_neg hfilled, if_neg hfilled']
  obtain ⟨hcalls, hsessions, -⟩ := hgenerations .standard keyedClient settings settings' _ _ hagree
    hkey hkey' hfilled hfilled' hanswers
  have hstart : (settings.get? "nl2ui_api_key").map (·.toList.take 3) =
      (settings'.get? "nl2ui_api_key").map (·.toList.take 3) := by
    rw [hkey, hkey']
    decide
  obtain ⟨shown, after, after', hrun, hrun', houtput, houtput'⟩ :=
    hshows none none keyedClient keyedClient ⟨"settings"⟩ ⟨some ⟨"settings"⟩, .showSettings⟩
      ⟨some ⟨"settings"⟩, .showSettings⟩ _ _ _ _ rfl rfl rfl rfl (holds_writtenWorld settings)
      (holds_writtenWorld settings') hagree hstart
  -- Nothing was printed before.
  have hquiet : ∀ settings, (writtenWorld settings).output = "" := fun _ => rfl
  rw [hquiet, String.empty_append] at houtput houtput'
  exact ⟨(hcalls "menu").message, hsessions .fresh _, shown, after, after', hrun, hrun', houtput,
    houtput'⟩

end PageSketch
