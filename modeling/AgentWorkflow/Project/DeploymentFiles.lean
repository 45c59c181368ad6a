import AgentWorkflow.Text.Shell
import AgentWorkflow.Text.Yaml
import AgentWorkflow.Workflow.Deployment

/-!
# Deployment files

The files with which a project is built into an image and deployed.
-/

namespace AgentWorkflow

namespace Project

def dockerfile : Text :=
  Text.unlines (["FROM python:3.11-slim",
    "WORKDIR /app",
    "COPY requirements.txt .",
    "RUN pip install --no-cache-dir -r requirements.txt",
    "COPY . .",
    "ENV AGENT_ENGINE_DEPLOYMENT=false",
    "ENV PORT=8080",
    "EXPOSE 8080",
    "CMD [\"chainlit\", \"run\", \"main.py\", \"--host\", \"0.0.0.0\", \"--port\", \"8080\"]"].map
      Text.ofString)

/-- The paths that are not uploaded. -/
def ignoredPaths : List Text :=
  [".git/", ".venv/", "venv/", "__pycache__/", "*.pyc", ".chainlit/", ".files/", ".env",
   "gcp-credentials.json", "*-credentials.json", "service-account*.json"]

/-- The list of paths that are not uploaded. -/
def ignoreFile : Text := Text.unlines ignoredPaths

/-- The name under which a service is shown. -/
def displayName (d : Deployment) : Text :=
  let name := d.serviceName.trim
  if name.isEmpty then d.service else name

/-- The arguments of the command that deploys the image. -/
def deployArguments (d : Deployment) : List Text :=
  ["beta", "agent-engine", "agents", "deploy", d.service,
   ("--project=" : Text) ++ d.project,
   ("--region=" : Text) ++ d.location,
   ("--image=" : Text) ++ d.image,
   ("--display-name=" : Text) ++ displayName d,
   "--agent-type=ADK", "--set-env-vars", "AGENT_ENGINE_DEPLOYMENT=true"]

/-- The build: make the image, push it, deploy it. -/
def buildSpec (d : Deployment) : Text :=
  let image := d.image.yamlScalar
  Text.unlines
    ([("# cloudbuild.yaml" : Text),
      "steps:",
      "- name: 'gcr.io/cloud-builders/docker'",
      ("  args: ['build', '-t', " : Text) ++ image ++ ", '.']",
      "- name: 'gcr.io/cloud-builders/docker'",
      ("  args: ['push', " : Text) ++ image ++ "]",
      "- name: 'gcr.io/google.com/cloudsdktool/cloud-sdk'",
      "  entrypoint: gcloud",
      "  args:"]
      ++ (deployArguments d).map (fun a => ("    - " : Text) ++ Text.yamlScalar a)
      ++ [("images:" : Text),
          ("- " : Text) ++ image,
          "options:",
          "  logging: CLOUD_LOGGING_ONLY"])

def deployScript (d : Deployment) : Text :=
  Text.unlines
    ["#!/bin/bash",
     "set -euo pipefail",
     "",
     ("export PROJECT_ID=" : Text) ++ d.project.shellWord,
     ("export REGION=" : Text) ++ d.location.shellWord,
     ("export SERVICE_NAME=" : Text) ++ d.service.shellWord,
     "",
     "gcloud config set project \"$PROJECT_ID\"",
     ("gcloud services enable cloudbuild.googleapis.com run.googleapis.com " : Text)
       ++ "artifactregistry.googleapis.com agentengine.googleapis.com",
     "gcloud builds submit --config cloudbuild.yaml ."]

end Project

end AgentWorkflow
