/-!
# A sample policy

The sample has an entry in every section but the one that clears flags, so the rules that it is
compiled to come to rest on every job.
-/

set_option autoImplicit false

namespace RoutingPolicy.Sample

def policyLines : List String := [
  "\x7b",
  "    \"overflow\": \x7b",
  "        \"reversed_mapping\": \x7b",
  "            \"T2_US_Purdue\": [\"T1_US_FNAL\", \"T2_US_Nebraska\"],",
  "            \"T2_US_MIT\": [\"T1_US_FNAL\"],",
  "            \"T2_CH_CERN\": [\"T1_IT_CNAF\"]",
  "        \x7d,",
  "        \"modifications\": \x7b",
  "            \"wf_alpha\": \x7b",
  "                \"/wf_alpha/Gen\": \x7b\"AddWhitelist\": [\"T2_US_Purdue\", \"T2_US_MIT\"]\x7d,",
  "                \"/wf_alpha/Digi\": \x7b\"AddWhitelist\": [\"T2_US_MIT\", \"T2_US_Purdue\"]\x7d",
  "            \x7d,",
  "            \"wf_beta\": \x7b",
  "                \"/wf_beta/Reco\": \x7b\"AddWhitelist\": [\"T2_CH_CERN\"]\x7d,",
  "                \"/wf_beta/Merge\": \x7b\"ReplaceSiteWhitelist\": [\"T1_US_FNAL\", \"T2_CH_CERN\"]\x7d",
  "            \x7d",
  "        \x7d",
  "    \x7d,",
  "    \"memory\": \x7b\"2000\": [\"/wf_alpha/Gen\", \"/wf_alpha/Digi\"], \"4000\": [\"/wf_beta/Reco\"]\x7d,",
  "    \"time\": \x7b\"600\": [\"/wf_alpha/Gen\"]\x7d,",
  "    \"slope\": \x7b\"250\": [\"/wf_beta/Reco\"]\x7d,",
  "    \"read\": \x7b\"5000\": [\"/wf_alpha/Digi\"]\x7d,",
  "    \"resizing\": \x7b",
  "        \"/wf_alpha/Gen\": \x7b\"minCores\": 2, \"maxCores\": 4, \"memoryPerThread\": 1500\x7d,",
  "        \"/wf_beta/Reco\": \x7b\"memoryPerThread\": 2000\x7d",
  "    \x7d,",
  "    \"hold\": \x7b\"/wf_gamma/Skim\": []\x7d,",
  "    \"release\": \x7b\"/wf_delta/Skim\": []\x7d,",
  "    \"hold_site\": [\"T2_FR_GRIF\"],",
  "    \"release_site\": [\"T2_IT_Bari\"],",
  "    \"highprio\": [\"wf_alpha\"],",
  "    \"speed_drain\": [\"vocms0250\"]",
  "\x7d"]

def policyText : String := "\n".intercalate policyLines

end RoutingPolicy.Sample
