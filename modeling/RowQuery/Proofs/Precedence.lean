import RowQuery.Proofs.Flags
import RowQuery.Settings.Load

/-!
# Which source of a setting wins

What a command line or its variables supply stands over the settings file: it is the setting,
whatever the file says. The debug flag is the one that is not decided so. It is on when either
source has it on, and one that is given as off does not turn off the one of the file.
-/
namespace RowQuery

def CommandLine.Parameter.effective : Parameter → Setting → Setting
  | .baseUrl, .text s => .text (Settings.withoutTrailingSlashes s)
  | _, v => v

namespace Settings
open CommandLine (Parameter Given Setting supplied)

def setting? (s : Settings) : Parameter → Option Setting
  | .host => some (.text s.host)
  | .port => some (.number s.port)
  | .debug => some (.switch s.debug)
  | .config => none
  | .baseUrl => some (.text s.baseUrl)
  | .model => some (.text s.model)
  | .timeoutSeconds => some (.number s.timeoutSeconds)
  | .maxAttempts => some (.number s.maxAttempts)
  | .policy => some (.policy s.policy)

theorem load_eq_ok {files : String → Option Entry} {path key : Option String} {command : Layer}
    {s : Settings} {warnings : List Warning} (h : load files path command key = (.ok s, warnings)) :
    ∃ file apiKey, findFile files path = .ok file ∧
      s = ofLayer (command.above file.layer) file.origins apiKey := by
  unfold load at h
  cases hfile : findFile files path with
  | error e => simp [hfile] at h
  | ok file =>
    cases hsources : ofSources command file key with
    | error e => simp [hfile, hsources] at h
    | ok s' =>
      simp only [hfile, hsources, Prod.mk.injEq, Except.ok.injEq] at h
      obtain ⟨rfl, -⟩ := h
      unfold ofSources at hsources
      split at hsources
      · cases hsources
      · next apiKey _ =>
        obtain ⟨-, -, hs⟩ := CommandLine.exists_of_bind hsources
        cases hs
        exact ⟨file, apiKey, rfl, rfl⟩

theorem setting?_of_given {g : Given} {p : Parameter} {v : Setting} (lower : Layer)
    (origins : Option (List String)) (apiKey : Secret) (hconfig : p ≠ .config) (hdebug : p ≠ .debug)
    (h : g.setting? p = some v) :
    (ofLayer (g.layer.above lower) origins apiKey).setting? p = some (p.effective v) := by
  cases p with
  | config => exact absurd rfl hconfig
  | debug => exact absurd rfl hdebug
  | _ =>
    obtain ⟨value, hvalue, rfl⟩ := Option.map_eq_some_iff.mp h
    simp [setting?, ofLayer, Layer.above, Given.layer, hvalue, Parameter.effective]

theorem debug_of_given {g : Given} {v : Setting} (lower : Layer)
    (origins : Option (List String)) (apiKey : Secret) (h : g.setting? .debug = some v) :
    ∃ on, v = .switch on ∧
      (ofLayer (g.layer.above lower) origins apiKey).debug = (on || lower.debug) := by
  obtain ⟨on, hon, rfl⟩ := Option.map_eq_some_iff.mp h
  exact ⟨on, rfl, by simp [ofLayer, Layer.above, Given.layer, hon]⟩

/-- A setting that is supplied is the one in effect, whatever the settings file says; of the debug
flag only one that is on. -/
theorem supplied_settings_prevail {environment : List (String × String)} {words : List String}
    {files : String → Option Entry} {key : Option String} {i : CommandLine.Invocation}
    {s : Settings} {warnings : List Warning} (hread : CommandLine.read environment words = .ok i)
    (hload : load files i.given.config i.given.layer key = (.ok s, warnings)) :
    (∀ p text, p ≠ .config → p ≠ .debug → supplied environment words p = some text →
        ∃ v, p.reads text = .ok v ∧ s.setting? p = some (p.effective v)) ∧
      ∃ file, findFile files i.given.config = .ok file ∧
        ∀ text, supplied environment words .debug = some text →
          ∃ on, Parameter.debug.reads text = .ok (.switch on) ∧
            s.debug = (on || file.layer.debug) := by
  obtain ⟨file, apiKey, hfile, hs⟩ := load_eq_ok hload
  have hgives : ∀ p text, supplied environment words p = some text →
      ∃ v, p.reads text = .ok v ∧ i.given.setting? p = some v := fun p text hsupplied => by
    have h := CommandLine.gives_of_read hread p
    rw [hsupplied] at h
    exact h.exists_value
  refine ⟨fun p text hconfig hdebug hsupplied => ?_, file, hfile, fun text hsupplied => ?_⟩
  · obtain ⟨v, hreads, hv⟩ := hgives p text hsupplied
    exact ⟨v, hreads, hs ▸ setting?_of_given _ _ _ hconfig hdebug hv⟩
  · obtain ⟨v, hreads, hv⟩ := hgives .debug text hsupplied
    obtain ⟨on, rfl, hon⟩ := debug_of_given file.layer file.origins apiKey hv
    exact ⟨on, hreads, hs ▸ hon⟩

def onlyFile (content : String) (path : String) : Option Entry :=
  if path = fileName then some (.text content) else none

theorem supplied_settings_prevail_last_flag_and_variable :
    ∃ i s warnings,
      CommandLine.read [("QUERYGENIE_PORT", "9100")]
        ["--host", "0.0.0.0", "start", "--host=127.0.0.2"] = .ok i ∧
      load (onlyFile "\x7b\"server\":\x7b\"host\":\"::\",\"port\":80\x7d\x7d") i.given.config
        i.given.layer (some "k") = (.ok s, warnings) ∧
      s.setting? .host = some (.text "127.0.0.2") ∧ s.setting? .port = some (.number 9100) := by
  have hread : CommandLine.read [("QUERYGENIE_PORT", "9100")]
      ["--host", "0.0.0.0", "start", "--host=127.0.0.2"] =
        .ok ⟨{ host := "127.0.0.2", port := some 9100 }, some .start⟩ := by cbv
  have hload : load (onlyFile "\x7b\"server\":\x7b\"host\":\"::\",\"port\":80\x7d\x7d") none
      { host := "127.0.0.2", port := some 9100 } (some "k") =
        (.ok ⟨"127.0.0.2", 9100, defaultBaseUrl, defaultModel, ⟨"k"⟩, 30, 3, .fail, ["*"], false⟩,
          []) := by cbv
  refine ⟨_, _, _, hread, hload, ?_, ?_⟩
  · obtain ⟨v, hv, hs⟩ := (supplied_settings_prevail hread hload).1 .host "127.0.0.2" (by decide)
      (by decide) (by cbv)
    cases hv
    exact hs
  · obtain ⟨v, hv, hs⟩ := (supplied_settings_prevail hread hload).1 .port "9100" (by decide)
      (by decide) (by cbv)
    cases hv
    exact hs

/-- A debug flag that the environment gives as off is on when the settings file has it on. -/
theorem debug_given_off_stays_on :
    ∃ i s warnings,
      CommandLine.read [("QUERYGENIE_DEBUG", "false")] [] = .ok i ∧
      supplied [("QUERYGENIE_DEBUG", "false")] [] .debug = some "false" ∧
      Parameter.debug.reads "false" = .ok (.switch false) ∧
      load (onlyFile "\x7b\"debug\":true\x7d") i.given.config i.given.layer (some "k") =
        (.ok s, warnings) ∧
      s.setting? .debug = some (.switch true) := by
  have hread : CommandLine.read [("QUERYGENIE_DEBUG", "false")] [] =
      .ok ⟨{ debug := some false }, none⟩ := by cbv
  have hload : load (onlyFile "\x7b\"debug\":true\x7d") none { debug := false } (some "k") =
      (.ok ⟨defaultHost, defaultPort, defaultBaseUrl, defaultModel, ⟨"k"⟩, 30, 3, .fail, ["*"],
        true⟩, []) := by cbv
  exact ⟨_, _, _, hread, by cbv, by cbv, hload, rfl⟩

end Settings
end RowQuery
