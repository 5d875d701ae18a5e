import DocumentClient.Proofs.Config.Root
import DocumentClient.Proofs.Url.Server

/-!
The server that a request path leads to.  It is the one of the root, unless two slashes are the
first to count of what the path has after its leading slashes; backslashes are slashes there.
-/

namespace DocumentClient.Config

open Text Url

def countedPath (path : String) : List Char :=
  dropBreaks (Reader.trimmed (path.toList.dropWhile (· = '/')))

def NamesHost (path : String) : Prop :=
  Reader.LeadsWithSlashes (path.toList.dropWhile (· = '/'))

instance (path : String) : Decidable (NamesHost path) :=
  inferInstanceAs (Decidable (Reader.LeadsWithSlashes _))

section

variable {config : Config} {path : String}

theorem mem_of_mem_countedPath {d : Char} (h : d ∈ countedPath path) : d ∈ path.toList := by
  have htrimmed : d ∈ Reader.trimmed (path.toList.dropWhile (· = '/')) := (List.mem_filter.1 h).1
  exact (List.dropWhile_suffix _).subset ((stripsTo_strip _ _).mem htrimmed)

theorem namesHost_iff : NamesHost path ↔ 2 ≤ Reader.slashCount (countedPath path) :=
  Reader.leadsWithSlashes_iff

theorem endpoint_eq_relative (hweb : config.baseUrl.IsWeb) (hcolon : ':' ∉ path.toList) :
    config.endpoint path =
      (Reader.relative config.baseUrl (countedPath path)).mapError (.badUrl path) := by
  have hscheme : Reader.scheme? (countedPath path) = none :=
    Reader.scheme?_of_colon_not_mem fun h => hcolon (mem_of_mem_countedPath h)
  rw [endpoint, hweb.join_eq_relative (by rwa [String.toList_ofList]), String.toList_ofList]
  rfl

/-- A path without a colon leads to the server of the root, unless it names a host: then to that
host, at the port that goes without saying. -/
theorem endpoint_server (hconfig : Made config)
    (hscheme : config.baseUrl.scheme = "http" ∨ config.baseUrl.scheme = "https")
    (hcolon : ':' ∉ path.toList) :
    (¬ NamesHost path →
      ∃ u, config.endpoint path = .ok u ∧ u.server = config.baseUrl.server) ∧
    (NamesHost path → ∀ u, config.endpoint path = .ok u →
      ∃ host, Host.parse (Reader.hostText (Reader.pastSlashes (countedPath path))) = .ok host ∧
        u.server = { scheme := config.baseUrl.scheme, host := some host, port := none } ∧
        (u.server = config.baseUrl.server ↔
          config.baseUrl.host? = some host ∧ config.baseUrl.port? = none)) := by
  have hweb : config.baseUrl.IsWeb := hconfig.isWeb (kind_of_scheme hscheme)
  rw [endpoint_eq_relative hweb hcolon, namesHost_iff]
  constructor
  · intro hcount
    obtain ⟨u, hu, hserver⟩ := hweb.relative_of_slashCount_lt (Nat.not_le.1 hcount)
    exact ⟨u, mapError_eq_ok_iff.2 hu, hserver⟩
  · intro hcount u hu
    obtain ⟨host, hhost, hserver⟩ := hweb.server_of_relative
      (fun h => hcolon (mem_of_mem_countedPath h)) hcount (mapError_eq_ok_iff.1 hu)
    refine ⟨host, hhost, hserver, ?_⟩
    rw [hserver, server, Server.mk.injEq]
    simp only [true_and, eq_comm]

end

theorem endpoint_server_docs :
    ∃ config u v host, withBaseUrl "https://docs.example.com/api/v1" = .ok config ∧
      config.endpoint " /schemas/movies/" = .ok u ∧ u.server = config.baseUrl.server ∧
      config.endpoint "\\\\docs.example.com" = .ok v ∧
      Host.parse "docs.example.com".toList = .ok host ∧
      v.server = { scheme := "https", host := some host, port := none } := by
  obtain ⟨config, hconfig⟩ :
      ∃ config, withBaseUrl "https://docs.example.com/api/v1" = .ok config := ⟨_, rfl⟩
  have hscheme : config.baseUrl.scheme = "https" := by
    cases hconfig
    rfl
  have hstays := @endpoint_server config " /schemas/movies/" (.withBaseUrl hconfig)
    (Or.inr hscheme) (by decide)
  have hleads := @endpoint_server config "\\\\docs.example.com" (.withBaseUrl hconfig)
    (Or.inr hscheme) (by decide)
  obtain ⟨u, hu, hserver⟩ := hstays.1 (by decide)
  obtain ⟨v, hv⟩ : ∃ v, config.endpoint "\\\\docs.example.com" = .ok v := by
    cases hconfig
    exact ⟨_, rfl⟩
  obtain ⟨host, hhost, hleads, -⟩ := hleads.2 (by decide) v hv
  exact ⟨config, u, v, host, hconfig, hu, hserver, hv, hhost, by rw [hleads, hscheme]⟩

theorem not_forall_endpoint_server :
    ¬ ∀ (config : Config) (path : String) (u : Url), Made config →
      config.baseUrl.scheme = "http" ∨ config.baseUrl.scheme = "https" → ':' ∉ path.toList →
      config.endpoint path = .ok u → u.server = config.baseUrl.server := by
  intro h
  obtain ⟨config, hconfig⟩ :
      ∃ config, withBaseUrl "https://docs.example.com/api/v1/" = .ok config := ⟨_, rfl⟩
  obtain ⟨u, hu⟩ : ∃ u, config.endpoint "\\\\other.example\\x" = .ok u := by
    cases hconfig
    exact ⟨_, rfl⟩
  have hscheme : config.baseUrl.scheme = "https" := by
    cases hconfig
    rfl
  have hserver := h config _ u (.withBaseUrl hconfig) (Or.inr hscheme) (by decide) hu
  cases hconfig
  cases hu
  cases hserver

end DocumentClient.Config
