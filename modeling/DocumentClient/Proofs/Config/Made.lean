import DocumentClient.Config
import DocumentClient.Proofs.Json.Fields
import DocumentClient.Proofs.Url.Web

namespace DocumentClient

open Url

namespace Config

/-- The ways to come by settings. -/
inductive Made : Config → Prop
  | withBaseUrl {raw : String} {c : Config} : withBaseUrl raw = .ok c → Made c
  | ofVariables {lookup : String → Option String} {c : Config} : ofVariables lookup = .ok c → Made c
  | decode {v : Json} {c : Config} : decode v = .ok c → Made c

def KnownBase (u : Url) : Prop := (∃ s, Url.parse s = .ok u) ∨ u = standard.baseUrl

theorem parse_of_parseBase {key raw : String} {u : Url} (h : parseBase key raw = .ok u) :
    Url.parse (withSlash raw) = .ok u := mapError_eq_ok_iff.1 h

theorem parse_of_withBaseUrl {raw : String} {c : Config} (h : withBaseUrl raw = .ok c) :
    Url.parse (withSlash raw) = .ok c.baseUrl := by
  obtain ⟨u, hu, rfl⟩ := map_eq_ok_iff.1 h
  exact parse_of_parseBase hu

theorem knownBase_of_ofVariables {lookup : String → Option String} {c : Config}
    (h : ofVariables lookup = .ok c) : KnownBase c.baseUrl := by
  obtain ⟨u, hu, h⟩ := bind_eq_ok_iff.1 h
  obtain ⟨n, -, h⟩ := bind_eq_ok_iff.1 h
  obtain ⟨f, -, h⟩ := bind_eq_ok_iff.1 h
  cases h
  cases hlookup : lookup urlKey with
  | none =>
    rw [hlookup] at hu
    cases hu
    exact Or.inr rfl
  | some raw =>
    rw [hlookup] at hu
    exact Or.inl ⟨_, parse_of_parseBase hu⟩

namespace Decode

theorem parse_of_url {v : Json} {u : Url} (h : url v = .ok u) : ∃ s, Url.parse s = .ok u := by
  cases v with
  | str s => exact ⟨s, mapError_eq_ok_iff.1 h⟩
  | _ => cases h

def Draft.Known (d : Draft) : Prop := ∀ u ∈ d.baseUrl, KnownBase u

theorem Draft.Known.step {d e : Draft} {name : String} {v : Json} (hd : d.Known)
    (h : d.step name v = .ok e) : e.Known := by
  unfold Draft.step at h
  split at h
  · obtain ⟨u, hu, rfl⟩ := map_eq_ok_iff.1 h
    intro w hw
    cases hw
    exact Or.inl (parse_of_url hu)
  · obtain ⟨t, -, rfl⟩ := map_eq_ok_iff.1 h
    exact hd
  · obtain ⟨n, -, rfl⟩ := map_eq_ok_iff.1 h
    exact hd
  · obtain ⟨f, -, rfl⟩ := map_eq_ok_iff.1 h
    exact hd
  · cases h
    exact hd

theorem Draft.known_of_fields {fs : Json.Fields} {d : Draft}
    (h : Json.Decoder.fields Draft.step {} fs = .ok d) : d.Known :=
  Json.Decoder.fields_induction (fun _ _ _ _ => Draft.Known.step) (by simp [Known]) h

end Decode

theorem knownBase_of_decode {v : Json} {c : Config} (h : decode v = .ok c) :
    KnownBase c.baseUrl := by
  unfold decode at h
  split at h
  · obtain ⟨d, hd, h⟩ := bind_eq_ok_iff.1 h
    obtain ⟨u, hu, h⟩ := bind_eq_ok_iff.1 h
    obtain ⟨n, -, h⟩ := bind_eq_ok_iff.1 h
    obtain ⟨f, -, h⟩ := bind_eq_ok_iff.1 h
    cases h
    cases hbase : d.baseUrl with
    | none =>
      rw [hbase] at hu
      cases hu
    | some w =>
      rw [hbase] at hu
      cases hu
      exact Decode.Draft.known_of_fields hd u hbase
  · obtain ⟨d, hd, h⟩ := bind_eq_ok_iff.1 h
    split at h
    · obtain ⟨_, -, h⟩ := bind_eq_ok_iff.1 h
      cases h
      exact Decode.Draft.known_of_fields hd _ rfl
    · cases h
  · cases h

theorem Made.knownBase {c : Config} (h : Made c) : KnownBase c.baseUrl := by
  cases h with
  | withBaseUrl h => exact Or.inl ⟨_, parse_of_withBaseUrl h⟩
  | ofVariables h => exact knownBase_of_ofVariables h
  | decode h => exact knownBase_of_decode h

theorem Made.isWeb {c : Config} (h : Made c) (hkind : c.baseUrl.kind = .special) :
    c.baseUrl.IsWeb := by
  rcases h.knownBase with ⟨s, hs⟩ | hbase
  · exact isWeb_of_parse hs hkind
  · rw [hbase]
    exact ⟨rfl, ⟨_, rfl⟩, rfl⟩

end Config

end DocumentClient
